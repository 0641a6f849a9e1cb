import CommitStyle.Proofs.Entries
import CommitStyle.Proofs.Json.Decimals
import CommitStyle.Proofs.Json.Texts

/-! A value that was written is read back, whatever white space the layout puts
between its parts. Reading items and members asks only that each value among them
is read back, so that the induction over values stays apart from the lists. -/

namespace CommitStyle.Json

/-! ## White space -/

/-- What comes next is no white space. -/
def StartsBare (s : List Char) : Prop := ∀ c ∈ s.head?, isSpace c = false

theorem skipSpace_blanks (offset : Nat) {blanks s : List Char}
    (hblanks : ∀ c ∈ blanks, isSpace c = true) (hs : StartsBare s) :
    Cursor.skipSpace ⟨offset, blanks ++ s⟩ = ⟨offset + blanks.length, s⟩ := by
  simp [Cursor.skipSpace, Cursor.skip, takeWhile_ends hblanks hs]

theorem skipSpace_bare (offset : Nat) {s : List Char} (hs : StartsBare s) :
    Cursor.skipSpace ⟨offset, s⟩ = ⟨offset, s⟩ :=
  skipSpace_blanks offset (by simp : ∀ c ∈ ([] : List Char), isSpace c = true) hs

theorem startsBare_cons {c : Char} (h : isSpace c = false) (rest : List Char) :
    StartsBare (c :: rest) := by
  rintro d ⟨⟩
  exact h

theorem EndsNumber.blanks {blanks s : List Char} (hblanks : ∀ c ∈ blanks, isSpace c = true)
    (hs : EndsNumber s) : EndsNumber (blanks ++ s) := by
  cases blanks with
  | nil => exact hs
  | cons c rest =>
    intro d hd
    cases hd
    have hspace := hblanks c (by simp)
    simp only [isSpace, Bool.or_eq_true, beq_iff_eq] at hspace
    rcases hspace with ((rfl | rfl) | rfl) | rfl <;> decide

theorem endsNumber_cons {c : Char} (h : c ∈ [',', ']', '}']) (rest : List Char) :
    EndsNumber (c :: rest) := by
  intro d hd
  cases hd
  simp only [List.mem_cons, List.not_mem_nil, or_false] at h
  rcases h with rfl | rfl | rfl <;> decide

/-- The layout puts one comma between items, and otherwise only white space. -/
structure Layout.IsBlank (layout : Layout) : Prop where
  comma : ∀ depth, ∃ blanks, layout.comma depth = ',' :: blanks ∧ ∀ c ∈ blanks, isSpace c = true
  opening : ∀ depth, ∀ c ∈ layout.opening depth, isSpace c = true
  closing : ∀ depth, ∀ c ∈ layout.closing depth, isSpace c = true

theorem isSpace_of_mem_lineBreak {depth : Nat} {c : Char} (h : c ∈ lineBreak depth) :
    isSpace c = true := by
  rcases List.mem_cons.mp h with rfl | h
  · rfl
  · rw [List.eq_of_mem_replicate h]
    rfl

theorem indented_isBlank : indented.IsBlank where
  comma _ := ⟨_, rfl, fun _ => isSpace_of_mem_lineBreak⟩
  opening _ _ := isSpace_of_mem_lineBreak
  closing _ _ := isSpace_of_mem_lineBreak

theorem onOneLine_isBlank : onOneLine.IsBlank where
  comma _ := ⟨[' '], rfl, by simp [isSpace]⟩
  opening _ := by simp [onOneLine]
  closing _ := by simp [onOneLine]

/-! ## One value among others -/

/-- A character that stands in front of a value and is taken for nothing else. -/
def isOpener (c : Char) : Bool := !isSpace c && c != ']' && c != '\uFEFF'

/-- A value is read back wherever it was written, given enough fuel. -/
structure ReadsBack (layout : Layout) (value : Json) : Prop where
  opens : ∀ depth, ∃ c rest, writeAt layout depth value = c :: rest ∧ isOpener c = true
  reads : ∀ depth fuel offset rest, 2 * (writeAt layout depth value).length ≤ fuel →
    EndsNumber rest → readValue fuel ⟨offset, writeAt layout depth value ++ rest⟩ =
      .ok (value, ⟨offset + (writeAt layout depth value).length, rest⟩)

section Lists

variable {layout : Layout} {value : Json}

theorem ReadsBack.bare (h : ReadsBack layout value) (depth : Nat) (rest : List Char) :
    StartsBare (writeAt layout depth value ++ rest) := by
  obtain ⟨c, more, heq, hopens⟩ := h.opens depth
  rw [heq]
  simp only [isOpener, Bool.and_eq_true, Bool.not_eq_true'] at hopens
  exact startsBare_cons hopens.1.1 _

theorem ReadsBack.head_ne (h : ReadsBack layout value) (depth : Nat) (rest : List Char) :
    (writeAt layout depth value ++ rest).head? ≠ some ']' := by
  obtain ⟨c, more, heq, hopens⟩ := h.opens depth
  rw [heq]
  rintro ⟨⟩
  exact absurd hopens (by decide)

/-! ## Items -/

/-- Reads on behind an item. -/
def readMoreItems (fuel : Nat) (item : Json) (next : Cursor) :
    Except Stop (List Json × Cursor) :=
  match next.rest with
  | ']' :: _ => .ok ([item], next.skip 1)
  | ',' :: _ => (readItems fuel (next.skip 1).skipSpace).map fun found => (item :: found.1, found.2)
  | _ => .error (.flaw .comma next.offset)

theorem readItems_item {fuel : Nat} {here next : Cursor} {item : Json}
    (hitem : readValue fuel here = .ok (item, next)) :
    readItems (fuel + 1) here = readMoreItems fuel item next.skipSpace := by
  rw [readItems, hitem]
  rfl

/-- Items that were written are read back. -/
theorem readItems_written (hlayout : layout.IsBlank) (depth : Nat) (rest : List Char)
    {item : Json} {items : List Json} (hitems : ∀ other ∈ item :: items, ReadsBack layout other)
    (fuel offset : Nat) (hfuel : 2 * ((writeAt layout (depth + 1) item).length +
      (writeItems layout depth items).length) < fuel) :
    readItems fuel ⟨offset, writeAt layout (depth + 1) item ++ (writeItems layout depth items ++
      (layout.closing depth ++ ']' :: rest))⟩ =
      .ok (item :: items, ⟨offset + ((writeAt layout (depth + 1) item).length +
        ((writeItems layout depth items).length + ((layout.closing depth).length + 1))),
        rest⟩) := by
  -- each comma pays for the fuel that the step to the next item takes
  induction items generalizing item fuel offset with
  | nil =>
    obtain ⟨fuel, rfl⟩ := Nat.exists_eq_succ_of_ne_zero (Nat.ne_zero_of_lt hfuel)
    have hends := (endsNumber_cons (by decide : ']' ∈ [',', ']', '}']) rest).blanks
      (hlayout.closing depth)
    have hread := (hitems item (by simp)).reads (depth + 1) fuel offset _ (by omega) hends
    have hclose := skipSpace_blanks (offset + (writeAt layout (depth + 1) item).length)
      (hlayout.closing depth) (startsBare_cons (by decide : isSpace ']' = false) rest)
    rw [writeItems, List.nil_append, readItems_item hread, hclose]
    simp [readMoreItems, Cursor.skip, Nat.add_assoc]
  | cons other items ih =>
    obtain ⟨fuel, rfl⟩ := Nat.exists_eq_succ_of_ne_zero (Nat.ne_zero_of_lt hfuel)
    obtain ⟨blanks, hcomma, hblanks⟩ := hlayout.comma depth
    simp only [writeItems, hcomma, List.length_append, List.length_cons] at hfuel
    have hshape : writeItems layout depth (other :: items) ++
        (layout.closing depth ++ ']' :: rest) = ',' :: (blanks ++
          (writeAt layout (depth + 1) other ++ (writeItems layout depth items ++
            (layout.closing depth ++ ']' :: rest)))) := by
      simp [writeItems, hcomma]
    have hread (tail : List Char) := (hitems item (by simp)).reads (depth + 1) fuel offset
      (',' :: tail) (by omega) (endsNumber_cons (by decide) tail)
    have hother := hitems other (by simp)
    have hrest (there : Nat) := ih (fun another hmem => hitems another
      (List.mem_cons_of_mem _ hmem)) fuel there (by omega)
    rw [hshape, readItems_item (hread _), skipSpace_bare _ (startsBare_cons (by decide) _),
      readMoreItems]
    simp only [Cursor.skip, List.drop_succ_cons, List.drop_zero]
    rw [skipSpace_blanks _ hblanks (hother.bare _ _), hrest]
    simp [Except.map, writeItems, hcomma]
    omega

/-! ## Members -/

/-- A member as it is written. -/
def memberText (layout : Layout) (depth : Nat) (member : JsonText × Json) : List Char :=
  writeText member.1 ++ ':' :: ' ' :: writeAt layout (depth + 1) member.2

theorem writeMembers_cons (layout : Layout) (depth : Nat) (member : JsonText × Json)
    (members : List (JsonText × Json)) : writeMembers layout depth (member :: members) =
      layout.comma depth ++ (memberText layout depth member ++
        writeMembers layout depth members) := by
  simp [writeMembers, memberText]

theorem memberText_cons (layout : Layout) (depth : Nat) (member : JsonText × Json) :
    ∃ rest, memberText layout depth member = '"' :: rest := by
  unfold memberText writeText
  split <;> exact ⟨_, rfl⟩

theorem bare_memberText (layout : Layout) (depth : Nat) (member : JsonText × Json)
    (rest : List Char) : StartsBare (memberText layout depth member ++ rest) := by
  obtain ⟨more, heq⟩ := memberText_cons layout depth member
  rw [heq]
  exact startsBare_cons (by decide) _

theorem head_memberText_ne (layout : Layout) (depth : Nat) (member : JsonText × Json)
    (rest : List Char) : (memberText layout depth member ++ rest).head? ≠ some '}' := by
  obtain ⟨more, heq⟩ := memberText_cons layout depth member
  simp [heq]

/-- Reads on behind a member. -/
def readMoreMembers (fuel : Nat) (members : Entries Json JsonText) (next : Cursor) :
    Except Stop (Entries Json JsonText × Cursor) :=
  match next.rest with
  | '}' :: _ => .ok (members, next.skip 1)
  | ',' :: _ => readMembers fuel members (next.skip 1).skipSpace
  | _ => .error (.flaw .comma next.offset)

theorem readMembers_member {fuel offset : Nat} (members : Entries Json JsonText)
    {here behind next : Cursor} {key : JsonText} {rest : List Char}
    (hquote : here.rest.head? = some '"') (hkey : readText (here.skip 1) = .ok (key, behind))
    (hcolon : behind.skipSpace = ⟨offset, ':' :: rest⟩)
    (hvalue : readValue fuel (Cursor.skipSpace ⟨offset + 1, rest⟩) = .ok (value, next)) :
    readMembers (fuel + 1) members here =
      readMoreMembers fuel (members.insert key value) next.skipSpace := by
  rw [readMembers, hkey]
  simp only [hquote, bne_self_eq_false, Bool.false_eq_true, if_false, bind, Except.bind, pure,
    Except.pure, hcolon, List.head?_cons, Cursor.skip, List.drop_succ_cons, List.drop_zero, hvalue]
  rfl

theorem fresh_of_nodup {before members : Entries Json JsonText} {member : JsonText × Json}
    (h : (before ++ member :: members).keys.Nodup) : member.1 ∉ before.keys := by
  rw [Entries.keys, List.map_append, List.map_cons] at h
  intro hmem
  exact (List.nodup_append.mp h).2.2 _ hmem _ (List.mem_cons_self) rfl

/-- A member that was written is put behind those before it, if its name is new. -/
theorem readMembers_memberText {member : JsonText × Json}
    (hmember : IsProper member.1 ∧ ReadsBack layout member.2) (depth : Nat)
    {before : Entries Json JsonText} (hfresh : member.1 ∉ before.keys) {fuel : Nat} (offset : Nat)
    {tail : List Char} (hfuel : 2 * (memberText layout depth member).length ≤ fuel)
    (htail : EndsNumber tail) :
    readMembers (fuel + 1) before ⟨offset, memberText layout depth member ++ tail⟩ =
      readMoreMembers fuel (before ++ [member])
        (Cursor.skipSpace ⟨offset + (memberText layout depth member).length, tail⟩) := by
  obtain ⟨key, value⟩ := member
  obtain ⟨hkey, hback⟩ := hmember
  have hshape : memberText layout depth (key, value) ++ tail =
      writeText key ++ ':' :: ([' '] ++ (writeAt layout (depth + 1) value ++ tail)) := by
    simp [memberText]
  have hspace (there : Nat) := skipSpace_blanks there
    (by simp [isSpace] : ∀ c ∈ [' '], isSpace c = true) (hback.bare (depth + 1) tail)
  have hlong : 2 * (writeAt layout (depth + 1) value).length ≤ fuel := by
    simp only [memberText, List.length_append, List.length_cons] at hfuel
    omega
  have hvalue (there : Nat) := hback.reads (depth + 1) fuel there tail hlong htail
  have hread := readMembers_member before
    (by rw [hshape, writeText_eq]; rfl) (hshape ▸ readText_writeText offset hkey _)
    (skipSpace_bare _ (startsBare_cons (by decide) _)) ((hspace _).symm ▸ hvalue _)
  rw [hread, Entries.insert_fresh hfresh]
  congr 3
  simp [memberText]
  omega

/-- Members that were written are read back behind those before them. -/
theorem readMembers_written (hlayout : layout.IsBlank) (depth : Nat) (rest : List Char)
    (before : Entries Json JsonText) {member : JsonText × Json} {members : Entries Json JsonText}
    (hmembers : ∀ other ∈ member :: members, IsProper other.1 ∧ ReadsBack layout other.2)
    (hkeys : (before ++ member :: members).keys.Nodup)
    (fuel offset : Nat) (hfuel : 2 * ((memberText layout depth member).length +
      (writeMembers layout depth members).length) < fuel) :
    readMembers fuel before ⟨offset, memberText layout depth member ++
      (writeMembers layout depth members ++ (layout.closing depth ++ '}' :: rest))⟩ =
      .ok (before ++ member :: members, ⟨offset + ((memberText layout depth member).length +
        ((writeMembers layout depth members).length + ((layout.closing depth).length + 1))),
        rest⟩) := by
  -- the members read so far grow, and no name among the rest is one of theirs
  induction members generalizing member before fuel offset with
  | nil =>
    obtain ⟨fuel, rfl⟩ := Nat.exists_eq_succ_of_ne_zero (Nat.ne_zero_of_lt hfuel)
    have hends := (endsNumber_cons (by decide : '}' ∈ [',', ']', '}']) rest).blanks
      (hlayout.closing depth)
    have hclose (there : Nat) := skipSpace_blanks there (hlayout.closing depth)
      (startsBare_cons (by decide : isSpace '}' = false) rest)
    rw [writeMembers, List.nil_append, readMembers_memberText (hmembers member (by simp)) depth
      (fresh_of_nodup hkeys) offset (by omega) hends, hclose]
    simp [readMoreMembers, Cursor.skip, Nat.add_assoc]
  | cons other members ih =>
    obtain ⟨fuel, rfl⟩ := Nat.exists_eq_succ_of_ne_zero (Nat.ne_zero_of_lt hfuel)
    obtain ⟨blanks, hcomma, hblanks⟩ := hlayout.comma depth
    have hshape : writeMembers layout depth (other :: members) ++
        (layout.closing depth ++ '}' :: rest) = ',' :: (blanks ++ (memberText layout depth other ++
          (writeMembers layout depth members ++ (layout.closing depth ++ '}' :: rest)))) := by
      simp [writeMembers_cons, hcomma]
    have hlength : (writeMembers layout depth (other :: members)).length =
        1 + blanks.length + (memberText layout depth other).length +
          (writeMembers layout depth members).length := by
      simp [writeMembers_cons, hcomma]
      omega
    have hrest (there : Nat) := ih (before ++ [member])
      (fun another hmem => hmembers another (List.mem_cons_of_mem _ hmem)) (by simpa using hkeys)
      fuel there (by omega)
    rw [hshape, readMembers_memberText (hmembers member (by simp)) depth (fresh_of_nodup hkeys)
      offset (by omega) (endsNumber_cons (by decide) _),
      skipSpace_bare _ (startsBare_cons (by decide) _), readMoreMembers]
    simp only [Cursor.skip, List.drop_succ_cons, List.drop_zero]
    rw [skipSpace_blanks _ hblanks (bare_memberText _ _ _ _), hrest, hlength]
    simp
    omega

end Lists

/-! ## Values -/

/-- Values that are written without loss: there is no text that reading would put together, no
whole number with more digits than may be read, and no name twice in an object. -/
inductive Plain : Json → Prop
  | null : Plain .null
  | bool (b : Bool) : Plain (.bool b)
  | int {n : Int} (h : n.natAbs < 10 ^ Number.digitLimit) : Plain (.int n)
  | float {x : Number.Binary64} (h : x.IsStored) : Plain (.float x)
  | str {text : JsonText} (h : IsProper text) : Plain (.str text)
  | arr {items : List Json} (h : ∀ item ∈ items, Plain item) : Plain (.arr items)
  | obj {members : List (JsonText × Json)} (hkeys : (Entries.keys members).Nodup)
    (hnames : ∀ member ∈ members, IsProper member.1)
    (hvalues : ∀ member ∈ members, Plain member.2) : Plain (.obj members)

/-- A value that begins with no quote and no bracket is a name or a number. -/
theorem readValue_bare {fuel offset : Nat} {c : Char} (h : c ∉ ['"', '{', '[']) (rest : List Char) :
    readValue (fuel + 1) ⟨offset, c :: rest⟩ =
      match readName? ⟨offset, c :: rest⟩ with
      | some found => .ok found
      | none => readNumber ⟨offset, c :: rest⟩ := by
  simp only [List.mem_cons, List.not_mem_nil, or_false, not_or] at h
  rw [readValue]
  split
  · rename_i heq
    cases heq
    exact absurd rfl h.1
  · rename_i heq
    cases heq
    exact absurd rfl h.2.1
  · rename_i heq
    cases heq
    exact absurd rfl h.2.2
  · rfl

/-- What is written is never empty, so that some fuel is there. -/
theorem ReadsBack.intro {layout : Layout} {value : Json}
    (hopens : ∀ depth, ∃ c rest, writeAt layout depth value = c :: rest ∧ isOpener c = true)
    (hreads : ∀ depth fuel offset rest, 2 * (writeAt layout depth value).length ≤ fuel + 1 →
      EndsNumber rest → readValue (fuel + 1) ⟨offset, writeAt layout depth value ++ rest⟩ =
        .ok (value, ⟨offset + (writeAt layout depth value).length, rest⟩)) :
    ReadsBack layout value := by
  refine ⟨hopens, fun depth fuel offset rest hfuel hrest => ?_⟩
  obtain ⟨c, more, heq, -⟩ := hopens depth
  cases fuel with
  | zero =>
    rw [heq, List.length_cons] at hfuel
    omega
  | succ fuel => exact hreads depth fuel offset rest hfuel hrest

/-- A word that stands for a value. -/
theorem readsBack_word {layout : Layout} {value : Json} {c : Char} {word : List Char}
    (hwrite : ∀ depth, writeAt layout depth value = c :: word) (hopens : isOpener c = true)
    (hbare : c ∉ ['"', '{', '['])
    (hread : ∀ offset rest, readName? ⟨offset, c :: (word ++ rest)⟩ =
      some (value, ⟨offset + (word.length + 1), rest⟩)) : ReadsBack layout value := by
  refine .intro (fun depth => ⟨c, word, hwrite depth, hopens⟩) fun depth fuel offset rest _ _ => ?_
  rw [hwrite, List.cons_append, readValue_bare hbare, hread]
  rfl

theorem readsBack_bool (layout : Layout) (b : Bool) : ReadsBack layout (.bool b) := by
  cases b with
  | false => exact readsBack_word (fun _ => rfl) (by decide) (by decide) fun _ _ => rfl
  | true => exact readsBack_word (fun _ => rfl) (by decide) (by decide) fun _ _ => rfl

/-- Characters that a number does not begin with: white space, the marks of other values, and the
first letters of names. -/
def nonDigits : List Char :=
  [' ', '\t', '\n', '\r', ']', '\uFEFF', '"', '{', '[', 'n', 't', 'f', 'N', 'I', '-']

theorem nonDigits_ne {c : Char} (h : Text.isAsciiDigit c = true) :
    ∀ d ∈ nonDigits, c ≠ d ∧ d ≠ c := by
  intro d hd
  have hnone : nonDigits.any Text.isAsciiDigit = false := by decide
  have hne : c ≠ d := by
    rintro rfl
    exact List.any_eq_false.mp hnone c hd h
  exact ⟨hne, hne.symm⟩

/-- A number is opened by its sign or its first digit, which no name begins with. -/
theorem writeWhole_cons (n : Int) : ∃ c rest, writeWhole n = c :: rest ∧ isOpener c = true ∧
    c ∉ ['"', '{', '['] ∧ ∀ offset more, readName? ⟨offset, c :: rest ++ more⟩ = none := by
  obtain ⟨digit, digits, hdigits⟩ := List.exists_cons_of_ne_nil (digitsOf_ne_nil n.natAbs)
  have hmem : digit ∈ digitsOf n.natAbs := by simp [hdigits]
  have hdigit := nonDigits_ne (isAsciiDigit_of_mem_digitsOf hmem)
  simp only [nonDigits, List.forall_mem_cons] at hdigit
  rw [writeWhole_eq, hdigits]
  by_cases hneg : n < 0
  · refine ⟨'-', digit :: digits, by simp [hneg], by decide, by decide, fun offset more => ?_⟩
    simp [readName?, names, hdigit]
  · refine ⟨digit, digits, by simp [hneg], ?_, ?_, fun offset more => ?_⟩
    · simp [isOpener, isSpace, hdigit]
    · simp [hdigit]
    · simp [readName?, names, hdigit]

/-- A number that is read where it was written, and that no name is taken for. -/
theorem readsBack_number {layout : Layout} {value : Json} {c : Char} {word : List Char}
    (hwrite : ∀ depth, writeAt layout depth value = c :: word) (hopens : isOpener c = true)
    (hbare : c ∉ ['"', '{', '['])
    (hname : ∀ offset more, readName? ⟨offset, c :: word ++ more⟩ = none)
    (hread : ∀ offset rest, EndsNumber rest → readNumber ⟨offset, c :: word ++ rest⟩ =
      .ok (value, ⟨offset + (c :: word).length, rest⟩)) : ReadsBack layout value := by
  refine .intro (fun depth => ⟨c, word, hwrite depth, hopens⟩)
    fun depth fuel offset rest _ hrest => ?_
  rw [hwrite, List.cons_append, readValue_bare hbare, ← List.cons_append, hname,
    hread offset rest hrest]

theorem readsBack_int {layout : Layout} {n : Int} (h : n.natAbs < 10 ^ Number.digitLimit) :
    ReadsBack layout (.int n) := by
  obtain ⟨c, word, heq, hopens, hbare, hname⟩ := writeWhole_cons n
  exact readsBack_number (fun _ => heq) hopens hbare hname fun offset rest hrest =>
    heq ▸ readNumber_writeWhole h offset hrest

/-- A finite number is opened by its sign or its first digit, which no name begins with. -/
theorem writeFloat_cons {negative : Bool} {m : Nat} {e : Int}
    (h : Number.Binary64.IsStored (.finite negative m e)) :
    ∃ c rest, writeFloat (.finite negative m e) = c :: rest ∧ isOpener c = true ∧
      c ∉ ['"', '{', '['] ∧ ∀ offset more, readName? ⟨offset, c :: rest ++ more⟩ = none := by
  obtain ⟨c, rest, heq, hdigit | ⟨rfl, digit, digits, rfl, hdigit⟩⟩ := writeFloat_head h
  · have hc := nonDigits_ne hdigit
    simp only [nonDigits, List.forall_mem_cons] at hc
    refine ⟨c, rest, heq, ?_, ?_, fun offset more => ?_⟩
    · simp [isOpener, isSpace, hc]
    · simp [hc]
    · simp [readName?, names, hc]
  · have hdigit := nonDigits_ne hdigit
    simp only [nonDigits, List.forall_mem_cons] at hdigit
    refine ⟨'-', _, heq, by decide, by decide, fun offset more => ?_⟩
    simp [readName?, names, hdigit]

theorem readsBack_float (layout : Layout) {x : Number.Binary64} (h : x.IsStored) :
    ReadsBack layout (.float x) := by
  cases x with
  | nan => exact readsBack_word (fun _ => rfl) (by decide) (by decide) fun _ _ => rfl
  | infinite negative =>
    cases negative with
    | false => exact readsBack_word (fun _ => rfl) (by decide) (by decide) fun _ _ => rfl
    | true => exact readsBack_word (fun _ => rfl) (by decide) (by decide) fun _ _ => rfl
  | finite negative m e =>
    obtain ⟨c, word, heq, hopens, hbare, hname⟩ := writeFloat_cons h
    exact readsBack_number (fun _ => heq) hopens hbare hname fun offset rest hrest =>
      heq ▸ readNumber_writeFloat h offset hrest

theorem readsBack_str (layout : Layout) {text : JsonText} (h : IsProper text) :
    ReadsBack layout (.str text) := by
  refine .intro (fun depth => ⟨'"', _, writeText_eq text, by decide⟩)
    fun depth fuel offset rest _ _ => ?_
  have hread := readText_writeText offset h rest
  show readValue (fuel + 1) ⟨offset, writeText text ++ rest⟩ = _
  rw [writeText_eq, List.cons_append] at hread ⊢
  rw [readValue]
  dsimp only
  rw [hread]
  simp [writeAt, writeText_eq, Except.map]

theorem writeAt_items (layout : Layout) (depth : Nat) (item : Json) (items : List Json) :
    writeAt layout depth (.arr (item :: items)) = '[' :: (layout.opening depth ++
      (writeAt layout (depth + 1) item ++
        (writeItems layout depth items ++ (layout.closing depth ++ [']'])))) := by
  simp [writeAt]

theorem writeAt_members (layout : Layout) (depth : Nat) (member : JsonText × Json)
    (members : List (JsonText × Json)) :
    writeAt layout depth (.obj (member :: members)) = '{' :: (layout.opening depth ++
      (memberText layout depth member ++
        (writeMembers layout depth members ++ (layout.closing depth ++ ['}'])))) := by
  simp [writeAt, memberText]

theorem readValue_items {fuel offset : Nat} {s : List Char} {here : Cursor}
    (hnext : Cursor.skipSpace ⟨offset + 1, s⟩ = here) (hclose : here.rest.head? ≠ some ']') :
    readValue (fuel + 1) ⟨offset, '[' :: s⟩ =
      (readItems fuel here).map fun found => (.arr found.1, found.2) := by
  rw [readValue]
  simp only [Cursor.skip, List.drop_succ_cons, List.drop_zero, hnext,
    beq_eq_false_iff_ne.mpr hclose, Bool.false_eq_true, if_false]
  rfl

theorem readValue_members {fuel offset : Nat} {s : List Char} {here : Cursor}
    (hnext : Cursor.skipSpace ⟨offset + 1, s⟩ = here) (hclose : here.rest.head? ≠ some '}') :
    readValue (fuel + 1) ⟨offset, '{' :: s⟩ =
      (readMembers fuel [] here).map fun found => (.obj found.1, found.2) := by
  rw [readValue]
  simp only [Cursor.skip, List.drop_succ_cons, List.drop_zero, hnext,
    beq_eq_false_iff_ne.mpr hclose, Bool.false_eq_true, if_false]
  rfl

/-- A list is closed by its bracket, so that it is read back whatever stands behind it. -/
theorem readValue_arr {layout : Layout} (hlayout : layout.IsBlank) {items : List Json}
    (h : ∀ item ∈ items, ReadsBack layout item) (depth offset : Nat) (rest : List Char) {fuel : Nat}
    (hfuel : 2 * (writeAt layout depth (.arr items)).length ≤ fuel + 1) :
    readValue (fuel + 1) ⟨offset, writeAt layout depth (.arr items) ++ rest⟩ =
      .ok (.arr items, ⟨offset + (writeAt layout depth (.arr items)).length, rest⟩) := by
  cases items with
  | nil => rfl
  | cons item items =>
    have hitem := h item (by simp)
    have hshape : writeAt layout depth (.arr (item :: items)) ++ rest = '[' ::
        (layout.opening depth ++ (writeAt layout (depth + 1) item ++
          (writeItems layout depth items ++ (layout.closing depth ++ ']' :: rest)))) := by
      simp [writeAt_items]
    have hlength : (writeAt layout depth (.arr (item :: items))).length =
        1 + (layout.opening depth).length + ((writeAt layout (depth + 1) item).length +
          ((writeItems layout depth items).length + ((layout.closing depth).length + 1))) := by
      simp [writeAt_items]
      omega
    rw [hshape, readValue_items (skipSpace_blanks _ (hlayout.opening depth) (hitem.bare _ _))
      (hitem.head_ne _ _), readItems_written hlayout depth rest h fuel _ (by omega), hlength]
    simp [Except.map, Nat.add_assoc]

theorem readsBack_arr {layout : Layout} (hlayout : layout.IsBlank) {items : List Json}
    (h : ∀ item ∈ items, ReadsBack layout item) : ReadsBack layout (.arr items) := by
  refine .intro (fun depth => ?_) fun depth fuel offset rest hfuel _ =>
    readValue_arr hlayout h depth offset rest hfuel
  cases items <;> exact ⟨'[', _, rfl, by decide⟩

theorem readsBack_obj {layout : Layout} (hlayout : layout.IsBlank)
    {members : List (JsonText × Json)} (hkeys : (Entries.keys members).Nodup)
    (h : ∀ member ∈ members, IsProper member.1 ∧ ReadsBack layout member.2) :
    ReadsBack layout (.obj members) := by
  cases members with
  | nil => exact .intro (fun _ => ⟨'{', ['}'], rfl, by decide⟩) fun _ _ _ _ _ _ => rfl
  | cons member members =>
    refine .intro (fun depth => ⟨'{', _, rfl, by decide⟩)
      fun depth fuel offset rest hfuel _ => ?_
    have hshape : writeAt layout depth (.obj (member :: members)) ++ rest = '{' ::
        (layout.opening depth ++ (memberText layout depth member ++
          (writeMembers layout depth members ++ (layout.closing depth ++ '}' :: rest)))) := by
      simp [writeAt_members]
    have hlength : (writeAt layout depth (.obj (member :: members))).length =
        1 + (layout.opening depth).length + ((memberText layout depth member).length +
          ((writeMembers layout depth members).length + ((layout.closing depth).length + 1))) := by
      simp [writeAt_members]
      omega
    rw [hshape, readValue_members (skipSpace_blanks _ (hlayout.opening depth)
      (bare_memberText layout depth member _)) (head_memberText_ne layout depth member _),
      readMembers_written hlayout depth rest [] h hkeys fuel _ (by omega), hlength]
    simp [Except.map, Nat.add_assoc]

/-- A plain value is read back, whatever stands behind it. -/
theorem Plain.readsBack {layout : Layout} (hlayout : layout.IsBlank) {value : Json}
    (h : Plain value) : ReadsBack layout value := by
  induction h with
  | null => exact readsBack_word (fun _ => rfl) (by decide) (by decide) fun _ _ => rfl
  | bool b => exact readsBack_bool layout b
  | int h => exact readsBack_int h
  | float h => exact readsBack_float layout h
  | str h => exact readsBack_str layout h
  | arr h ih => exact readsBack_arr hlayout ih
  | obj hkeys hnames hvalues ih =>
    exact readsBack_obj hlayout hkeys fun member hmem => ⟨hnames member hmem, ih member hmem⟩

/-- A value that was read is all of the text if only white space stands behind it. -/
theorem readAll_of_readValue {c : Char} {s : List Char} (hopens : isOpener c = true) {value : Json}
    {next : Cursor} (hread : readValue (2 * (c :: s).length + 2) ⟨0, c :: s⟩ = .ok (value, next)) :
    readAll (c :: s) = if next.skipSpace.rest.isEmpty then .ok value
      else .error (.flaw .extraData next.skipSpace.offset) := by
  have hspace : isSpace c = false ∧ c ≠ '\uFEFF' := by
    simp only [isOpener, Bool.and_eq_true, Bool.not_eq_true', bne_iff_ne] at hopens
    exact ⟨hopens.1.1, hopens.2⟩
  have hmark : (c :: s).head? ≠ some '\uFEFF' := fun h => hspace.2 (Option.some.inj h)
  rw [readAll, beq_eq_false_iff_ne.mpr hmark, skipSpace_bare 0 (startsBare_cons hspace.1 s), hread]
  simp only [bind, Except.bind, pure, Except.pure, Bool.false_eq_true, if_false]
  cases next.skipSpace.rest.isEmpty <;> rfl

/-- A text that is one plain value is read as that value, with white space behind it or not. -/
theorem readAll_written {layout : Layout} (hlayout : layout.IsBlank) {value : Json}
    (h : Plain value) {blanks : List Char} (hblanks : ∀ c ∈ blanks, isSpace c = true) :
    readAll (writeAt layout 0 value ++ blanks) = .ok value := by
  have hback := h.readsBack hlayout
  have hends : EndsNumber blanks := by
    rw [← List.append_nil blanks]
    exact EndsNumber.blanks hblanks fun _ h => by cases h
  have hread := hback.reads 0 (2 * (writeAt layout 0 value ++ blanks).length + 2) 0 blanks
    (by rw [List.length_append]; omega) hends
  have hspace (there : Nat) : Cursor.skipSpace ⟨there, blanks⟩ = ⟨there + blanks.length, []⟩ := by
    have := skipSpace_blanks there hblanks (s := []) fun _ h => by cases h
    rwa [List.append_nil] at this
  obtain ⟨c, more, heq, hopens⟩ := hback.opens 0
  rw [heq, List.cons_append] at hread ⊢
  rw [readAll_of_readValue hopens hread, hspace]
  rfl

/-- A list is not all of a text with anything but white space behind it. -/
theorem readAll_extra {layout : Layout} (hlayout : layout.IsBlank) {items : List Json}
    (h : ∀ item ∈ items, Plain item) {rest : List Char} {c : Char} (hmem : c ∈ rest)
    (hc : isSpace c = false) :
    ∃ offset, readAll (writeAt layout 0 (.arr items) ++ rest) =
      .error (.flaw .extraData offset) := by
  have hback (item : Json) (hitem : item ∈ items) := (h item hitem).readsBack hlayout
  have hfuel : 2 * (writeAt layout 0 (.arr items)).length ≤
      2 * (writeAt layout 0 (.arr items) ++ rest).length + 2 := by
    rw [List.length_append]
    omega
  have hread := readValue_arr hlayout hback 0 0 rest hfuel
  have hleft (there : Nat) : (Cursor.skipSpace ⟨there, rest⟩).rest.isEmpty = false := by
    rw [List.isEmpty_eq_false_iff]
    intro hnil
    have hall : rest.takeWhile isSpace = rest :=
      (List.takeWhile_prefix isSpace).eq_of_length_le (List.drop_eq_nil_iff.mp hnil)
    rw [← hall] at hmem
    rw [List.all_eq_true.mp List.all_takeWhile c hmem] at hc
    cases hc
  obtain ⟨first, more, heq, hopens⟩ := (readsBack_arr hlayout hback).opens 0
  rw [heq, List.cons_append] at hread ⊢
  rw [readAll_of_readValue hopens hread, hleft]
  exact ⟨_, rfl⟩

/-- A plain value that was written over several lines is read back. -/
theorem read_pretty {value : Json} (h : Plain value) {blanks : List Char}
    (hblanks : ∀ c ∈ blanks, isSpace c = true) :
    read (value.pretty ++ String.ofList blanks) = .ok value := by
  rw [read, pretty, ← String.ofList_append, String.toList_ofList,
    readAll_written indented_isBlank h hblanks]
  rfl

end CommitStyle.Json
