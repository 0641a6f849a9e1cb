import CommitStyle.Proofs.Json.RoundTrip

/-! Reading gives plain values only, so that whatever was read can be written and read again
without loss. Two halves that stand side by side in escapes are read as one character, so that no
text is left with such a pair; whole numbers have no more digits than may be read, floating ones
are rounded to what can be stored, and a name that comes twice replaces the value before. -/

namespace CommitStyle.Json

open CommitStyle.Success

/-! ## Texts -/

/-- What comes next is the escape of a second half. -/
def StartsSecondHalf (s : List Char) : Prop :=
  ∃ digits unit, s = '\\' :: 'u' :: digits ∧ codeUnit? digits = some unit ∧
    isLowSurrogate unit = true

theorem unitPoint_eq_half {n unit : Nat} (h : unitPoint n = .half unit) :
    n = unit ∧ 0xD800 ≤ unit ∧ unit < 0xE000 := by
  unfold unitPoint at h
  split at h
  · rename_i hbounds
    cases h
    simpa using hbounds
  · cases h

/-- Both halves of a pair that stand side by side are read as one character. -/
theorem unicodeEscape_followed {offset high : Nat} {digits : List Char}
    (hunit : codeUnit? digits = some high) (hhigh : isHighSurrogate high = true)
    (h : StartsSecondHalf (digits.drop 4)) :
    ∃ c, unicodeEscape offset digits = .ok (.char c, 10) := by
  obtain ⟨more, low, hmore, hlow, hsecond⟩ := h
  have hroom : (more.drop 4).isEmpty = false := by
    by_contra hempty
    rw [codeUnit?, if_pos (by simpa using hempty)] at hlow
    cases hlow
  unfold unicodeEscape
  simp only [hunit, hmore, hhigh, hroom, hlow, hsecond, Bool.not_false, Bool.and_self, if_true]
  exact ⟨_, rfl⟩

/-- An escape is read as a half only where the other half does not follow. -/
theorem unicodeEscape_half {offset unit width : Nat} {digits : List Char}
    (h : unicodeEscape offset digits = .ok (.half unit, width)) :
    width = 4 ∧ codeUnit? digits = some unit ∧ (0xD800 ≤ unit ∧ unit < 0xE000) ∧
      (isHighSurrogate unit = true → ¬ StartsSecondHalf (digits.drop 4)) := by
  have halone : ∃ n, codeUnit? digits = some n ∧ unitPoint n = .half unit ∧ width = 4 := by
    unfold unicodeEscape at h
    split at h
    · cases h
    rename_i n hn
    have hpoint (heq : (Except.ok (unitPoint n, 4) : Except Stop (CodePoint × Nat)) =
        .ok (.half unit, width)) : unitPoint n = .half unit ∧ width = 4 := by
      simp only [Except.ok.injEq, Prod.mk.injEq] at heq
      exact ⟨heq.1, heq.2.symm⟩
    refine ⟨n, hn, ?_⟩
    split at h
    · split at h
      · split at h
        · cases h
        · split at h
          · cases h
          · exact hpoint h
      · exact hpoint h
    · exact hpoint h
  obtain ⟨n, hn, hpoint, hwidth⟩ := halone
  obtain ⟨rfl, hbounds⟩ := unitPoint_eq_half hpoint
  refine ⟨hwidth, hn, hbounds, fun hhigh hstarts => ?_⟩
  obtain ⟨c, hpair⟩ := unicodeEscape_followed hn hhigh hstarts
  cases hpair.symm.trans h

theorem readTextFrom_over {start offset skip : Nat} {s : List Char} {found}
    (h : readTextFrom start offset skip s = .ok found) : skip ≤ s.length := by
  induction s generalizing offset skip with
  | nil => cases skip <;> cases h
  | cons c rest ih =>
    cases skip with
    | zero => exact Nat.zero_le _
    | succ skip =>
      rw [readTextFrom] at h
      exact Nat.succ_le_succ (ih h)

/-- One code point is read, and then the rest of the text. -/
theorem readTextFrom_step {start offset : Nat} {s : List Char} {points : List CodePoint}
    {next : Cursor} (h : readTextFrom start offset 0 s = .ok (points, next)) :
    points = [] ∨ ∃ point more there rest, points = point :: more ∧
      readTextFrom start there 0 rest = .ok (more, next) ∧ rest.length < s.length ∧
      ∀ unit, point = .half unit → ∃ digits, s = '\\' :: 'u' :: digits ∧
        unicodeEscape (offset + 2) digits = .ok (.half unit, 4) ∧ rest = digits.drop 4 := by
  unfold readTextFrom at h
  split at h
  · cases h
  · contradiction
  · cases h
    exact .inl rfl
  · rename_i rest _
    split at h
    · cases h
    · rename_i digits
      obtain ⟨⟨point, width⟩, hescape, h⟩ := bind_eq_ok.mp h
      obtain ⟨⟨more, last⟩, hrest, h⟩ := bind_eq_ok.mp h
      cases h
      have hover := readTextFrom_over hrest
      rw [readTextFrom_skip start (offset + 1) hover, List.drop_succ_cons] at hrest
      refine .inr ⟨point, more, _, digits.drop width, rfl, hrest, by simp; omega, ?_⟩
      rintro unit rfl
      obtain ⟨rfl, -⟩ := unicodeEscape_half hescape
      exact ⟨digits, rfl, hescape, rfl⟩
    · rename_i e others _
      split at h
      · cases h
      · obtain ⟨⟨more, last⟩, hrest, h⟩ := bind_eq_ok.mp h
        cases h
        rw [readTextFrom_skip start (offset + 1) (by simp)] at hrest
        refine .inr ⟨_, more, _, others, rfl, hrest, ?_, fun unit hunit => by cases hunit⟩
        simp only [List.length_cons]
        omega
  · rename_i rest _ _ _
    split at h
    · cases h
    · obtain ⟨⟨more, last⟩, hrest, h⟩ := bind_eq_ok.mp h
      cases h
      exact .inr ⟨_, more, _, rest, rfl, hrest, by simp, fun unit hunit => by cases hunit⟩

/-- A second half is read first only where its escape stands. -/
theorem readTextFrom_first {start offset : Nat} {s : List Char} {points : List CodePoint}
    {next : Cursor} (h : readTextFrom start offset 0 s = .ok (points, next))
    (hstart : ¬ StartsSecondHalf s) :
    ∀ unit, .half unit ∈ points.head? → isLowSurrogate unit = false := by
  intro unit hunit
  rcases readTextFrom_step h with rfl | ⟨point, more, there, rest, rfl, -, -, hhalf⟩
  · cases hunit
  · obtain ⟨digits, rfl, hescape, -⟩ := hhalf unit (by simpa using hunit)
    obtain ⟨-, hcode, -, -⟩ := unicodeEscape_half hescape
    by_contra hsecond
    exact hstart ⟨digits, unit, rfl, hcode, by simpa using hsecond⟩

/-- The code points that are read hold no two halves that pair. -/
theorem areSingle_readTextFrom {start offset : Nat} {s : List Char} {points : List CodePoint}
    {next : Cursor} (h : readTextFrom start offset 0 s = .ok (points, next)) :
    AreSingle points := by
  induction hlength : s.length using Nat.strongRecOn generalizing offset s points with
  | ind length ih =>
    subst hlength
    rcases readTextFrom_step h with rfl | ⟨point, more, there, rest, rfl, hrest, hshort, hhalf⟩
    · exact areSingle_chars []
    · have hmore := ih _ hshort hrest rfl
      refine ⟨fun unit hmem => ?_, List.isChain_cons.mpr ⟨fun other hother hpairs => ?_,
        hmore.apart⟩⟩
      · rcases List.mem_cons.mp hmem with rfl | hmem
        · obtain ⟨digits, -, hescape, -⟩ := hhalf unit rfl
          exact (unicodeEscape_half hescape).2.2.1
        · exact hmore.halves unit hmem
      · match point, other, hpairs with
        | .half high, .half low, ⟨hhigh, hlow⟩ =>
          obtain ⟨digits, -, hescape, rfl⟩ := hhalf high rfl
          have hstart := (unicodeEscape_half hescape).2.2.2 hhigh
          rw [readTextFrom_first hrest hstart low hother] at hlow
          cases hlow

theorem isProper_ofPoints {points : List CodePoint} (h : AreSingle points) :
    IsProper (.ofPoints points) := by
  unfold JsonText.ofPoints
  split
  · exact isProper_whole _
  · rename_i hbroken
    refine ⟨?_, h⟩
    rw [JsonText.points, JsonText.ofPoints, hbroken]

theorem isProper_readText {here next : Cursor} {text : JsonText}
    (h : readText here = .ok (text, next)) : IsProper text := by
  obtain ⟨⟨points, last⟩, hpoints, h⟩ := bind_eq_ok.mp h
  cases h
  exact isProper_ofPoints (areSingle_readTextFrom hpoints)

/-- Each character of a text, taken by itself. -/
theorem isProper_of_mem_characters {text : JsonText} (h : IsProper text) {character : JsonText}
    (hmem : character ∈ text.characters) : IsProper character := by
  obtain ⟨point, hpoint, rfl⟩ := List.mem_map.mp hmem
  refine isProper_ofPoints ⟨fun unit hunit => ?_, List.isChain_singleton point⟩
  rw [← List.mem_singleton.mp hunit] at hpoint
  exact h.single.halves unit hpoint

/-! ## Numbers -/

theorem decimalValue?_lt {c : Char} {d : Nat} (h : Text.decimalValue? c = some d) : d < 10 := by
  unfold Text.decimalValue? at h
  split at h
  · rename_i hdigit
    cases h
    simp only [Text.isAsciiDigit, Bool.and_eq_true, decide_eq_true_eq, Char.le_def,
      UInt32.le_iff_toNat_le] at hdigit
    have hlow : '0'.val.toNat = 48 := rfl
    have hhigh : '9'.val.toNat = 57 := rfl
    simp only [Char.toNat]
    omega
  split at h
  · cases h
  · obtain ⟨range, -, rfl⟩ := Option.map_eq_some_iff.mp h
    exact Nat.mod_lt _ (by decide)

theorem ofDigits_lt {ds : List Nat} (h : ∀ d ∈ ds, d < 10) :
    Number.ofDigits ds < 10 ^ ds.length := by
  induction ds using List.reverseRecOn with
  | nil => decide
  | append_singleton ds d ih =>
    have hrest := ih fun e he => h e (by simp [he])
    have hd := h d (by simp)
    have hlast : Number.ofDigits [d] = d := by simp [Number.ofDigits]
    rw [ofDigits_append, hlast, List.length_append, List.length_singleton, pow_add, pow_one]
    omega

theorem digitsValue_lt (s : List Char) : digitsValue s < 10 ^ s.length := by
  have hdigits : ∀ d ∈ s.filterMap Text.decimalValue?, d < 10 := by
    intro d hd
    obtain ⟨c, -, hc⟩ := List.mem_filterMap.mp hd
    exact decimalValue?_lt hc
  exact (ofDigits_lt hdigits).trans_le
    (Nat.pow_le_pow_right (by decide) (List.length_filterMap_le _ s))

theorem plain_numberText {n : NumberText} {value : Json} (h : n.value = .ok value) :
    value.Plain := by
  unfold NumberText.value at h
  split at h
  · split at h
    · cases h
    · rename_i hshort
      cases h
      have hvalue : digitsValue n.whole < 10 ^ Number.digitLimit :=
        (digitsValue_lt n.whole).trans_le (Nat.pow_le_pow_right (by decide) (by omega))
      refine .int ?_
      split <;> omega
  · cases h
    exact .float (Number.Binary64.isStored_ofDecimal _ _ _)

theorem plain_readNumber {here next : Cursor} {value : Json}
    (h : readNumber here = .ok (value, next)) : value.Plain := by
  unfold readNumber at h
  split at h
  · cases h
  · obtain ⟨found, hfound, heq⟩ := map_eq_ok.mp h
    cases heq
    exact plain_numberText hfound

theorem plain_readName {here next : Cursor} {value : Json}
    (h : readName? here = some (value, next)) : value.Plain := by
  obtain ⟨name, hname, heq⟩ := Option.map_eq_some_iff.mp h
  cases heq
  have hmem := List.mem_of_find?_eq_some hname
  simp only [names, List.mem_cons, List.not_mem_nil, or_false] at hmem
  rcases hmem with rfl | rfl | rfl | rfl | rfl | rfl
  · exact .null
  · exact .bool true
  · exact .bool false
  · exact .float trivial
  · exact .float trivial
  · exact .float trivial

/-! ## Values -/

/-- Members as an object has them whose value is plain. -/
structure ArePlain (members : Entries Json JsonText) : Prop where
  keys : members.keys.Nodup
  names : ∀ member ∈ members, IsProper member.1
  values : ∀ member ∈ members, Plain member.2

theorem ArePlain.nil : ArePlain [] := ⟨.nil, by simp, by simp⟩

theorem ArePlain.insert {members : Entries Json JsonText} (h : ArePlain members) {key : JsonText}
    {value : Json} (hkey : IsProper key) (hvalue : value.Plain) :
    ArePlain (members.insert key value) where
  keys := Entries.nodup_insert h.keys key value
  names member hmem := by
    rcases Entries.mem_insert hmem with rfl | hmem
    · exact hkey
    · exact h.names member hmem
  values member hmem := by
    rcases Entries.mem_insert hmem with rfl | hmem
    · exact hvalue
    · exact h.values member hmem

/-- What is read with some fuel is plain. -/
structure ReadsPlain (fuel : Nat) : Prop where
  value : ∀ {here value next}, readValue fuel here = .ok (value, next) → value.Plain
  items : ∀ {here items next}, readItems fuel here = .ok (items, next) → ∀ item ∈ items, item.Plain
  members : ∀ {before here found next}, readMembers fuel before here = .ok (found, next) →
    ArePlain before → ArePlain found

namespace ReadsPlain

variable {fuel : Nat} (h : ReadsPlain fuel)
include h

theorem readValue_succ {here next : Cursor} {value : Json}
    (hread : readValue (fuel + 1) here = .ok (value, next)) : value.Plain := by
  unfold readValue at hread
  split at hread
  · obtain ⟨⟨text, last⟩, htext, heq⟩ := map_eq_ok.mp hread
    cases heq
    exact .str (isProper_readText htext)
  · dsimp only at hread
    split at hread
    · cases hread
      exact .obj .nil (by simp) (by simp)
    · obtain ⟨⟨members, last⟩, hmembers, heq⟩ := bind_eq_ok.mp hread
      cases heq
      have hplain := h.members hmembers .nil
      exact .obj hplain.keys hplain.names hplain.values
  · dsimp only at hread
    split at hread
    · cases hread
      exact .arr (by simp)
    · obtain ⟨⟨items, last⟩, hitems, heq⟩ := bind_eq_ok.mp hread
      cases heq
      exact .arr (h.items hitems)
  · split at hread
    · rename_i hname
      cases hread
      exact plain_readName hname
    · exact plain_readNumber hread

theorem readItems_succ {here next : Cursor} {items : List Json}
    (hread : readItems (fuel + 1) here = .ok (items, next)) : ∀ item ∈ items, item.Plain := by
  unfold readItems at hread
  obtain ⟨⟨item, behind⟩, hitem, hread⟩ := bind_eq_ok.mp hread
  have hplain := h.value hitem
  dsimp only at hread
  split at hread
  · cases hread
    simpa using hplain
  · obtain ⟨⟨more, last⟩, hmore, heq⟩ := bind_eq_ok.mp hread
    cases heq
    exact List.forall_mem_cons.mpr ⟨hplain, h.items hmore⟩
  · cases hread

theorem readMembers_succ {before found : Entries Json JsonText} {here next : Cursor}
    (hread : readMembers (fuel + 1) before here = .ok (found, next)) (hbefore : ArePlain before) :
    ArePlain found := by
  unfold readMembers at hread
  split at hread
  · cases hread
  obtain ⟨⟨key, behind⟩, hkey, hread⟩ := bind_eq_ok.mp hread
  dsimp only at hread
  split at hread
  · cases hread
  obtain ⟨⟨value, last⟩, hvalue, hread⟩ := bind_eq_ok.mp hread
  have hinsert := hbefore.insert (isProper_readText hkey) (h.value hvalue)
  dsimp only at hread
  split at hread
  · cases hread
    exact hinsert
  · exact h.members hread hinsert
  · cases hread

end ReadsPlain

theorem readsPlain (fuel : Nat) : ReadsPlain fuel := by
  induction fuel with
  | zero =>
    refine ⟨fun h => ?_, fun h => ?_, fun h => ?_⟩
    · rw [readValue] at h
      cases h
    · rw [readItems] at h
      cases h
    · rw [readMembers] at h
      cases h
  | succ fuel ih => exact ⟨ih.readValue_succ, ih.readItems_succ, ih.readMembers_succ⟩

/-- Whatever a text is read as is plain. -/
theorem plain_read {text : String} {value : Json} (h : read text = .ok value) : value.Plain := by
  have hall := mapError_eq_ok.mp h
  unfold readAll at hall
  split at hall
  · cases hall
  obtain ⟨⟨found, next⟩, hfound, hall⟩ := bind_eq_ok.mp hall
  dsimp only at hall
  split at hall
  · cases hall
  · cases hall
    exact (readsPlain _).value hfound

end CommitStyle.Json
