import CommitStyle.Answer
import CommitStyle.Proofs.Text.AsciiCase
import CommitStyle.Proofs.Text.Pieces
import Mathlib.Data.List.TakeWhile

/-! A version is accepted exactly if it is a semantic one, a line feed at its end aside. The
grammar of semantic versions is said over the parts that such a version is put together
from. The signs that announce a pre-release and a build cannot stand in what is before
them, so a text is cut into its parts in one way only. -/

namespace CommitStyle.Version

open CommitStyle.Text

/-! ## The grammar -/

/-- A zero comes first only where it is all there is. -/
def NoLeadingZero (s : List Char) : Prop := s.head? = some '0' → s = ['0']

structure IsNumeric (s : List Char) : Prop where
  nonempty : s ≠ []
  digits : ∀ c ∈ s, c.isDigit = true
  unpadded : NoLeadingZero s

structure IsIdentifier (s : List Char) : Prop where
  nonempty : s ≠ []
  chars : ∀ c ∈ s, c.isAlphanum = true ∨ c = '-'

/-- An identifier of a pre-release: one that consists of digits is a number. -/
structure IsPreReleaseIdentifier (s : List Char) : Prop extends IsIdentifier s where
  unpadded : (∀ c ∈ s, c.isDigit = true) → NoLeadingZero s

/-- What a version is put together from: three numbers, then the identifiers of a
pre-release and those of a build, if it has any. -/
structure Parts where
  major : List Char
  minor : List Char
  patch : List Char
  preRelease : Option (List (List Char))
  build : Option (List (List Char))

/-- What is announced by the sign, behind it. -/
def announced (sign : Char) : Option (List Char) → List Char
  | none => []
  | some s => sign :: s

def dotted (ids : List (List Char)) : List Char := joinPieces '.' ids

/-- The identifiers, if there is a list of them, are such ones, and there is one at least. -/
def Listed (ofKind : List Char → Prop) (back : Option (List (List Char))) : Prop :=
  ∀ ids ∈ back, ids ≠ [] ∧ ∀ id ∈ ids, ofKind id

namespace Parts

def numbers (parts : Parts) : List (List Char) := [parts.major, parts.minor, parts.patch]

def text (parts : Parts) : List Char :=
  dotted parts.numbers ++ announced '-' (parts.preRelease.map dotted) ++
    announced '+' (parts.build.map dotted)

/-- The numbers and the identifiers are what they have to be. -/
structure Made (number preReleaseId buildId : List Char → Prop) (parts : Parts) : Prop where
  numbers : ∀ id ∈ parts.numbers, number id
  preRelease : Listed preReleaseId parts.preRelease
  build : Listed buildId parts.build

end Parts

/-- The text is a semantic version. -/
def IsSemantic (s : List Char) : Prop :=
  ∃ parts : Parts, parts.Made IsNumeric IsPreReleaseIdentifier IsIdentifier ∧ parts.text = s

/-! ## Cutting -/

variable {c : Char} {s front : List Char} {ids : List (List Char)} {parts : Parts}

theorem cutAt_append (h : c ∉ front) (back : Option (List Char)) :
    cutAt c (front ++ announced c back) = (front, back) := by
  have hfront : ∀ d ∈ front, (d != c) = true := by
    intro d hd
    rw [bne_iff_ne]
    rintro rfl
    exact h hd
  have hwhile : (front ++ announced c back).takeWhile (· != c) = front := by
    rw [List.takeWhile_append_of_pos hfront]
    cases back with
    | none => simp [announced]
    | some s => simp [announced]
  rw [cutAt, hwhile]
  cases back with
  | none => simp [announced]
  | some s => simp [announced]

theorem exists_cut (c : Char) (s : List Char) :
    ∃ front back, c ∉ front ∧ front ++ announced c back = s := by
  by_cases h : c ∈ s
  · obtain ⟨front, back, rfl, hfront⟩ := List.eq_append_cons_of_mem h
    exact ⟨front, some back, hfront, rfl⟩
  · exact ⟨s, none, h, List.append_nil s⟩

theorem dotted_identifiers (s : List Char) : dotted (identifiers s) = s := joinPieces_pieces '.' s

theorem map_dotted_identifiers (back : Option (List Char)) :
    (back.map identifiers).map dotted = back := by
  cases back with
  | none => rfl
  | some s => exact congrArg some (dotted_identifiers s)

/-! ## Numbers and identifiers -/

theorem ascii_of_isAlphanum (h : c.isAlphanum = true) : c.toNat < 0x80 := by
  have hval : c.toNat = c.val.toNat := rfl
  have hranges : c.isAlphanum = (decide ('A'.val ≤ c.val ∧ c.val ≤ 'Z'.val) ||
      ('a'.val ≤ c.val && c.val ≤ 'z'.val) || ('0'.val ≤ c.val && c.val ≤ '9'.val)) := rfl
  simp only [hranges, Bool.or_eq_true, Bool.and_eq_true, decide_eq_true_eq,
    UInt32.le_iff_toNat_le] at h
  simp at h
  omega

theorem ascii_of_isDigit (h : c.isDigit = true) : c.toNat < 0x80 :=
  ascii_of_isAlphanum (by simp [Char.isAlphanum, h])

theorem isDecimal_eq_isDigit (h : c.toNat < 0x80) : isDecimal c = c.isDigit :=
  forall_ascii (P := fun c => isDecimal c = c.isDigit) (by decide) h

theorem isDecimal_of_isDigit (h : c.isDigit = true) : isDecimal c = true :=
  (isDecimal_eq_isDigit (ascii_of_isDigit h)).trans h

theorem isDecimal_eq_false (h : c.isAlpha = true ∨ c = '-') : isDecimal c = false := by
  have hascii : c.toNat < 0x80 := by
    rcases h with halpha | rfl
    · exact ascii_of_isAlphanum (by simp [Char.isAlphanum, halpha])
    · decide
  exact forall_ascii (P := fun c => c.isAlpha = true ∨ c = '-' → isDecimal c = false)
    (by decide) hascii h

theorem isDigit_iff : c.isDigit = true ↔ c = '0' ∨ ('1' ≤ c ∧ c ≤ '9') := by
  rw [Char.isDigit, ← Char.toNat_inj]
  simp only [Char.le_def, UInt32.le_iff_toNat_le, Bool.and_eq_true, decide_eq_true_eq, Char.toNat]
  simp
  omega

theorem isIdentifierChar_iff : isIdentifierChar c = true ↔ c.isAlphanum = true ∨ c = '-' := by
  simp [isIdentifierChar]

theorem isBuild_iff : isBuild s = true ↔ IsIdentifier s := by
  simp only [isBuild, Bool.and_eq_true, List.all_eq_true, isIdentifierChar_iff, Bool.not_eq_true',
    List.isEmpty_eq_false_iff]
  exact ⟨fun h => ⟨h.1, h.2⟩, fun h => ⟨h.1, h.2⟩⟩

theorem isIdentifierChar_of_isBuild (h : isBuild s = true) :
    ∀ c ∈ s, isIdentifierChar c = true :=
  fun c hc => isIdentifierChar_iff.mpr ((isBuild_iff.mp h).chars c hc)

theorem isNumber_cons (c : Char) (rest : List Char) : isNumber (c :: rest) = true ↔
    (c = '0' ∧ rest = []) ∨ (('1' ≤ c ∧ c ≤ '9') ∧ ∀ d ∈ rest, isDecimal d = true) := by
  rw [isNumber.eq_def]
  split
  · rename_i heq
    obtain ⟨rfl, rfl⟩ := List.cons.inj heq
    simp
  · rename_i hlong heq
    obtain ⟨rfl, rfl⟩ := List.cons.inj heq
    have hlong : ¬ (c = '0' ∧ rest = []) := by
      rintro ⟨rfl, rfl⟩
      exact hlong rfl rfl
    simp [hlong]
  · contradiction

theorem isDecimal_of_isNumber (h : isNumber s = true) : ∀ c ∈ s, isDecimal c = true := by
  cases s with
  | nil => cases h
  | cons c rest =>
    intro d hd
    rcases (isNumber_cons c rest).mp h with ⟨rfl, rfl⟩ | ⟨hfirst, hrest⟩
    · rw [List.mem_singleton.mp hd]
      rfl
    · rcases List.mem_cons.mp hd with rfl | hd
      · exact isDecimal_of_isDigit (isDigit_iff.mpr (.inr hfirst))
      · exact hrest d hd

/-- The digits that come first are all that there are until the letter or dash. -/
theorem isMixed_iff : isMixed s = true ↔ ∃ digits c rest, s = digits ++ c :: rest ∧
    (∀ d ∈ digits, isDecimal d = true) ∧ (c.isAlpha = true ∨ c = '-') ∧
      ∀ d ∈ rest, isIdentifierChar d = true := by
  constructor
  · intro h
    rw [isMixed] at h
    split at h
    · cases h
    · rename_i c rest hdrop
      simp only [Bool.and_eq_true, Bool.or_eq_true, beq_iff_eq, List.all_eq_true] at h
      refine ⟨s.takeWhile isDecimal, c, rest, ?_, fun d hd => List.mem_takeWhile_imp hd, h⟩
      rw [← hdrop, List.takeWhile_append_dropWhile]
  · rintro ⟨digits, c, rest, rfl, hdigits, hc, hrest⟩
    rw [isMixed, List.dropWhile_append_of_pos hdigits,
      List.dropWhile_cons_of_neg (by simp [isDecimal_eq_false hc])]
    simpa using ⟨hc, hrest⟩

theorem char_of_isPreRelease (h : isPreRelease s = true) :
    ∀ c ∈ s, isDecimal c = true ∨ isIdentifierChar c = true := by
  rcases Bool.or_eq_true_iff.mp h with hnumber | hmixed
  · exact fun c hc => .inl (isDecimal_of_isNumber hnumber c hc)
  · obtain ⟨digits, d, rest, rfl, hdigits, hd, hrest⟩ := isMixed_iff.mp hmixed
    intro c hc
    rcases List.mem_append.mp hc with hc | hc
    · exact .inl (hdigits c hc)
    · refine .inr ?_
      rcases List.mem_cons.mp hc with rfl | hc
      · exact isIdentifierChar_iff.mpr (hd.imp_left fun halpha => by simp [Char.isAlphanum, halpha])
      · exact hrest c hc

theorem not_mem_of_chars (hdecimal : isDecimal c = false) (hchar : isIdentifierChar c = false)
    (h : ∀ d ∈ s, isDecimal d = true ∨ isIdentifierChar d = true) : c ∉ s := by
  intro hmem
  rcases h c hmem with hc | hc
  · exact Bool.false_ne_true (hdecimal.symm.trans hc)
  · exact Bool.false_ne_true (hchar.symm.trans hc)

/-! ## Recognizing -/

/-- The parts of what is recognized. -/
abbrev Parts.Recognized (parts : Parts) : Prop :=
  parts.Made (isNumber · = true) (isPreRelease · = true) (isBuild · = true)

theorem not_mem_dotted (hc : c ≠ '.') (h : ∀ id ∈ ids, c ∉ id) : c ∉ dotted ids := by
  intro hmem
  rcases mem_joinPieces hmem with heq | ⟨id, hid, hmem⟩
  · exact hc heq
  · exact h id hid hmem

theorem all_identifiers {p : List Char → Bool} {back : Option (List (List Char))}
    (h : Listed (p · = true) back) (hdot : ∀ id, p id = true → '.' ∉ id) :
    (back.map dotted).all (fun s => (identifiers s).all p) = true := by
  cases back with
  | none => rfl
  | some ids =>
    obtain ⟨hne, hids⟩ := h ids rfl
    have hcut : identifiers (dotted ids) = ids :=
      pieces_joinPieces hne fun id hid => hdot id (hids id hid)
    rw [Option.map_some, Option.all_some, hcut]
    exact List.all_eq_true.mpr hids

theorem not_mem_announced {sign : Char} {back : Option (List (List Char))} (hsign : c ≠ sign)
    (hdot : c ≠ '.') (h : ∀ ids ∈ back, ∀ id ∈ ids, c ∉ id) :
    c ∉ announced sign (back.map dotted) := by
  cases back with
  | none => exact List.not_mem_nil
  | some ids =>
    rw [Option.map_some, announced, List.mem_cons, not_or]
    exact ⟨hsign, not_mem_dotted hdot (h ids rfl)⟩

namespace Parts.Recognized

theorem not_mem_number (h : parts.Recognized) (hc : isDecimal c = false) :
    ∀ id ∈ parts.numbers, c ∉ id := by
  intro id hid hmem
  have hdecimal := isDecimal_of_isNumber (h.numbers id hid) c hmem
  exact Bool.false_ne_true (hc.symm.trans hdecimal)

theorem not_mem_preRelease (h : parts.Recognized) (hdecimal : isDecimal c = false)
    (hchar : isIdentifierChar c = false) : ∀ ids ∈ parts.preRelease, ∀ id ∈ ids, c ∉ id :=
  fun ids hids id hid =>
    not_mem_of_chars hdecimal hchar (char_of_isPreRelease ((h.preRelease ids hids).2 id hid))

theorem not_mem_build (h : parts.Recognized) (hdecimal : isDecimal c = false)
    (hchar : isIdentifierChar c = false) : ∀ ids ∈ parts.build, ∀ id ∈ ids, c ∉ id :=
  fun ids hids id hid =>
    not_mem_of_chars hdecimal hchar fun d hd =>
      .inr (isIdentifierChar_of_isBuild ((h.build ids hids).2 id hid) d hd)

end Parts.Recognized

/-- Neither of the signs stands before the place where the text is cut at it. -/
theorem isVersionText_text (h : parts.Recognized) : isVersionText parts.text = true := by
  have hcore : identifiers (dotted parts.numbers) = parts.numbers :=
    pieces_joinPieces (List.cons_ne_nil _ _) (h.not_mem_number (by decide))
  have hdash : '-' ∉ dotted parts.numbers :=
    not_mem_dotted (by decide) (h.not_mem_number (by decide))
  have hplus : '+' ∉ dotted parts.numbers ++ announced '-' (parts.preRelease.map dotted) := by
    rw [List.mem_append, not_or]
    exact ⟨not_mem_dotted (by decide) (h.not_mem_number (by decide)),
      not_mem_announced (by decide) (by decide) (h.not_mem_preRelease (by decide) (by decide))⟩
  simp only [Parts.text, isVersionText, cutAt_append hplus, cutAt_append hdash, hcore,
    Bool.and_eq_true, beq_iff_eq]
  refine ⟨⟨⟨rfl, List.all_eq_true.mpr h.numbers⟩, ?_⟩, ?_⟩
  · refine all_identifiers h.preRelease fun id hid => ?_
    exact not_mem_of_chars (by decide) (by decide) (char_of_isPreRelease hid)
  · refine all_identifiers h.build fun id hid => ?_
    exact not_mem_of_chars (by decide) (by decide) fun c hc =>
      .inr (isIdentifierChar_of_isBuild hid c hc)

theorem exists_recognized (h : isVersionText s = true) :
    ∃ parts : Parts, parts.Recognized ∧ parts.text = s := by
  obtain ⟨numbered, build, hplus, rfl⟩ := exists_cut '+' s
  obtain ⟨core, preRelease, hdash, rfl⟩ := exists_cut '-' numbered
  simp only [isVersionText, cutAt_append hplus, cutAt_append hdash, Bool.and_eq_true,
    beq_iff_eq] at h
  obtain ⟨⟨⟨hthree, hnumbers⟩, hpre⟩, hbuild⟩ := h
  obtain ⟨major, minor, patch, hcore⟩ := List.length_eq_three.mp hthree
  refine ⟨⟨major, minor, patch, preRelease.map identifiers, build.map identifiers⟩,
    ⟨?_, ?_, ?_⟩, ?_⟩
  · rw [hcore] at hnumbers
    exact List.all_eq_true.mp hnumbers
  · intro ids hids
    obtain ⟨s, rfl, rfl⟩ := Option.map_eq_some_iff.mp hids
    exact ⟨pieces_ne_nil '.' s, List.all_eq_true.mp hpre⟩
  · intro ids hids
    obtain ⟨s, rfl, rfl⟩ := Option.map_eq_some_iff.mp hids
    exact ⟨pieces_ne_nil '.' s, List.all_eq_true.mp hbuild⟩
  · rw [Parts.text, Parts.numbers, ← hcore]
    simp only [map_dotted_identifiers, dotted_identifiers]

/-! ## Semantic versions -/

theorem isNumber_of_numeric (h : IsNumeric s) : isNumber s = true := by
  cases s with
  | nil => exact absurd rfl h.nonempty
  | cons c rest =>
    rw [isNumber_cons]
    rcases isDigit_iff.mp (h.digits c List.mem_cons_self) with rfl | hc
    · exact .inl ⟨rfl, (List.cons.inj (h.unpadded rfl)).2⟩
    · exact .inr ⟨hc, fun d hd => isDecimal_of_isDigit (h.digits d (List.mem_cons_of_mem _ hd))⟩

theorem numeric_of_isNumber (hascii : IsAscii s) (h : isNumber s = true) : IsNumeric s := by
  refine ⟨?_, fun c hc => ?_, ?_⟩
  · rintro rfl
    cases h
  · rw [← isDecimal_eq_isDigit (hascii c hc)]
    exact isDecimal_of_isNumber h c hc
  · intro hzero
    obtain ⟨rest, rfl⟩ := List.head?_eq_some_iff.mp hzero
    rcases (isNumber_cons '0' rest).mp h with ⟨-, rfl⟩ | ⟨⟨hone, -⟩, -⟩
    · rfl
    · exact absurd hone (by decide)

/-- What is no number has something else than digits in it: the first such character
is a letter or a dash. -/
theorem isPreRelease_of_identifier (h : IsPreReleaseIdentifier s) : isPreRelease s = true := by
  by_cases hdigits : ∀ c ∈ s, c.isDigit = true
  · have hnumber := isNumber_of_numeric ⟨h.nonempty, hdigits, h.unpadded hdigits⟩
    rw [isPreRelease, hnumber, Bool.true_or]
  · have hsome : (s.find? (!·.isDigit)).isSome := by simpa using hdigits
    obtain ⟨c, hc⟩ := Option.isSome_iff_exists.mp hsome
    obtain ⟨hother, digits, rest, rfl, hbefore⟩ := List.find?_eq_some_iff_append.mp hc
    have hmixed : isMixed (digits ++ c :: rest) = true := by
      refine isMixed_iff.mpr ⟨digits, c, rest, rfl, fun d hd => ?_, ?_, fun d hd => ?_⟩
      · exact isDecimal_of_isDigit (by simpa using hbefore d hd)
      · exact (h.chars c (by simp)).imp_left fun hc => by simp_all [Char.isAlphanum]
      · exact isIdentifierChar_iff.mpr (h.chars d (by simp [hd]))
    rw [isPreRelease, hmixed, Bool.or_true]

theorem identifier_of_isPreRelease (hascii : IsAscii s) (h : isPreRelease s = true) :
    IsPreReleaseIdentifier s := by
  have hchars : ∀ c ∈ s, c.isAlphanum = true ∨ c = '-' := by
    intro c hc
    rcases char_of_isPreRelease h c hc with hdecimal | hchar
    · rw [isDecimal_eq_isDigit (hascii c hc)] at hdecimal
      exact .inl (by simp [Char.isAlphanum, hdecimal])
    · exact isIdentifierChar_iff.mp hchar
  rcases Bool.or_eq_true_iff.mp h with hnumber | hmixed
  · have hnumeric := numeric_of_isNumber hascii hnumber
    exact ⟨⟨hnumeric.nonempty, hchars⟩, fun _ => hnumeric.unpadded⟩
  · obtain ⟨digits, c, rest, rfl, -, hc, -⟩ := isMixed_iff.mp hmixed
    refine ⟨⟨by simp, hchars⟩, fun hall => ?_⟩
    have hdigit := isDecimal_of_isDigit (hall c (by simp))
    exact absurd hdigit (by simp [isDecimal_eq_false hc])

theorem Listed.imp {p q : List Char → Prop} {back : Option (List (List Char))} (h : Listed p back)
    (himp : ∀ ids ∈ back, ∀ id ∈ ids, p id → q id) : Listed q back := by
  intro ids hids
  obtain ⟨hne, hp⟩ := h ids hids
  exact ⟨hne, fun id hid => himp ids hids id hid (hp id hid)⟩

theorem ascii_of_mem_dotted (hascii : IsAscii (dotted ids)) {id : List Char} (hid : id ∈ ids) :
    IsAscii id :=
  fun c hc => hascii c (mem_joinPieces_of_mem hid hc)

theorem Parts.Recognized.made (h : parts.Recognized) (hascii : IsAscii parts.text) :
    parts.Made IsNumeric IsPreReleaseIdentifier IsIdentifier := by
  have hcore : IsAscii (dotted parts.numbers) :=
    fun c hc => hascii c (List.mem_append_left _ (List.mem_append_left _ hc))
  have hpre : ∀ ids ∈ parts.preRelease, IsAscii (dotted ids) := by
    intro ids hids c hc
    refine hascii c (List.mem_append_left _ (List.mem_append_right _ ?_))
    rw [Option.mem_def.mp hids]
    exact List.mem_cons_of_mem _ hc
  constructor
  · exact fun id hid => numeric_of_isNumber (ascii_of_mem_dotted hcore hid) (h.numbers id hid)
  · exact h.preRelease.imp fun ids hids id hid =>
      identifier_of_isPreRelease (ascii_of_mem_dotted (hpre ids hids) hid)
  · exact h.build.imp fun _ _ _ _ => isBuild_iff.mp

theorem Parts.Made.recognized (h : parts.Made IsNumeric IsPreReleaseIdentifier IsIdentifier) :
    parts.Recognized where
  numbers id hid := isNumber_of_numeric (h.numbers id hid)
  preRelease := h.preRelease.imp fun _ _ _ _ => isPreRelease_of_identifier
  build := h.build.imp fun _ _ _ _ => isBuild_iff.mpr

theorem isVersionText_iff (hascii : IsAscii s) : isVersionText s = true ↔ IsSemantic s := by
  constructor
  · intro h
    obtain ⟨parts, hparts, rfl⟩ := exists_recognized h
    exact ⟨parts, hparts.made hascii, rfl⟩
  · rintro ⟨parts, hmade, rfl⟩
    exact isVersionText_text hmade.recognized

/-! ## The end of the text -/

theorem feed_not_mem (h : IsSemantic s) : '\n' ∉ s := by
  obtain ⟨parts, hmade, rfl⟩ := h
  have hparts := hmade.recognized
  rw [Parts.text, List.mem_append, List.mem_append, not_or, not_or]
  refine ⟨⟨?_, ?_⟩, ?_⟩
  · exact not_mem_dotted (by decide) (hparts.not_mem_number (by decide))
  · exact not_mem_announced (by decide) (by decide)
      (hparts.not_mem_preRelease (by decide) (by decide))
  · exact not_mem_announced (by decide) (by decide)
      (hparts.not_mem_build (by decide) (by decide))

theorem dropFinalLineFeed_append (s : List Char) : dropFinalLineFeed (s ++ ['\n']) = s := by
  simp [dropFinalLineFeed]

theorem dropFinalLineFeed_eq_self (h : s.getLast? ≠ some '\n') : dropFinalLineFeed s = s :=
  if_neg (by simpa using h)

theorem versionFault?_eq_none {version : String} :
    Answer.versionFault? version = none ↔ Version.isVersion version = true := by
  rw [Answer.versionFault?]
  split
  · simp_all
  · simp_all

/-- **The versions that are accepted are the semantic ones**, each of them also with a line
feed at its end. -/
theorem accepted_iff_semantic {version : String} (hascii : IsAscii version.toList) :
    Answer.versionFault? version = none ↔
      IsSemantic version.toList ∨ ∃ s, version.toList = s ++ ['\n'] ∧ IsSemantic s := by
  rw [versionFault?_eq_none, isVersion]
  constructor
  · intro h
    by_cases hlast : version.toList.getLast? = some '\n'
    · obtain ⟨s, hs⟩ := List.getLast?_eq_some_iff.mp hlast
      rw [hs] at h hascii
      rw [dropFinalLineFeed_append] at h
      exact .inr ⟨s, hs, (isVersionText_iff fun c hc => hascii c (by simp [hc])).mp h⟩
    · rw [dropFinalLineFeed_eq_self hlast] at h
      exact .inl ((isVersionText_iff hascii).mp h)
  · rintro (h | ⟨s, hs, h⟩)
    · have hlast : version.toList.getLast? ≠ some '\n' :=
        fun hlast => feed_not_mem h (List.mem_of_getLast? hlast)
      rw [dropFinalLineFeed_eq_self hlast]
      exact (isVersionText_iff hascii).mpr h
    · rw [hs] at hascii ⊢
      rw [dropFinalLineFeed_append]
      exact (isVersionText_iff fun c hc => hascii c (by simp [hc])).mpr h

/-- A pre-release and a build with dashes, numbers and letters, and a line feed at the end. -/
theorem accepted_iff_semantic_feed : IsAscii "1.0.10-rc-1.0a+007.-\n".toList ∧
    (IsSemantic "1.0.10-rc-1.0a+007.-\n".toList ∨
      ∃ s, "1.0.10-rc-1.0a+007.-\n".toList = s ++ ['\n'] ∧ IsSemantic s) :=
  ⟨by decide, (accepted_iff_semantic (by decide)).mp (by decide)⟩

end CommitStyle.Version
