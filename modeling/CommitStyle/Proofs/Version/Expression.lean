import CommitStyle.Proofs.Version
import Mathlib.Computability.Language

/-! What is recognized as a version, said as a regular expression. A text is cut at its signs
and dots and looked at once, with no way back; that finds all that the expression
matches, digits of other scripts than the Latin one among it. -/

namespace CommitStyle.Version

open CommitStyle.Text
open scoped Computability

/-! ## The expression -/

/-- One character of the class. -/
def oneOf (ofClass : Char → Bool) : Language Char := {s | ∃ c, ofClass c = true ∧ s = [c]}

/-- The sign, and nothing else. -/
def literal (sign : Char) : Language Char := {[sign]}

/-- `0|[1-9]\d*` -/
def numberLanguage : Language Char :=
  literal '0' + oneOf (fun c => '1' ≤ c && c ≤ '9') * (oneOf isDecimal)∗

/-- `0|[1-9]\d*|\d*[a-zA-Z-][0-9a-zA-Z-]*` -/
def preReleaseLanguage : Language Char :=
  numberLanguage +
    (oneOf isDecimal)∗ * (oneOf (fun c => c.isAlpha || c == '-') * (oneOf isIdentifierChar)∗)

/-- `[0-9a-zA-Z-]+` -/
def identifierLanguage : Language Char := oneOf isIdentifierChar * (oneOf isIdentifierChar)∗

/-- An item, then any number of items with a dot before each. -/
def dottedLanguage (item : Language Char) : Language Char := item * (literal '.' * item)∗

/-- Nothing, or the sign and then what it announces. -/
def announcedLanguage (sign : Char) (rest : Language Char) : Language Char :=
  1 + literal sign * rest

/-- Three numbers, with dots between them. -/
def coreLanguage : Language Char :=
  numberLanguage * (literal '.' * (numberLanguage * (literal '.' * numberLanguage)))

def versionLanguage : Language Char :=
  coreLanguage * announcedLanguage '-' (dottedLanguage preReleaseLanguage) *
    announcedLanguage '+' (dottedLanguage identifierLanguage)

/-! ## What its pieces match -/

variable {s : List Char} {item : Language Char}

theorem mem_oneOf_mul {ofClass : Char → Bool} {rest : Language Char} :
    s ∈ oneOf ofClass * rest ↔ ∃ c more, ofClass c = true ∧ more ∈ rest ∧ s = c :: more := by
  rw [Language.mem_mul]
  constructor
  · rintro ⟨first, ⟨c, hc, rfl⟩, more, hmore, rfl⟩
    exact ⟨c, more, hc, hmore, rfl⟩
  · rintro ⟨c, more, hc, hmore, rfl⟩
    exact ⟨[c], ⟨c, hc, rfl⟩, more, hmore, rfl⟩

theorem mem_literal_mul {sign : Char} {rest : Language Char} :
    s ∈ literal sign * rest ↔ ∃ more ∈ rest, s = sign :: more := by
  rw [Language.mem_mul]
  constructor
  · rintro ⟨first, hfirst, more, hmore, rfl⟩
    obtain rfl : first = [sign] := hfirst
    exact ⟨more, hmore, rfl⟩
  · rintro ⟨more, hmore, rfl⟩
    exact ⟨[sign], rfl, more, hmore, rfl⟩

theorem mem_kstar_oneOf {ofClass : Char → Bool} :
    s ∈ (oneOf ofClass)∗ ↔ ∀ c ∈ s, ofClass c = true := by
  rw [Language.mem_kstar]
  constructor
  · rintro ⟨parts, rfl, hparts⟩ c hc
    obtain ⟨part, hpart, hmem⟩ := List.mem_flatten.mp hc
    obtain ⟨d, hd, rfl⟩ := hparts part hpart
    rwa [List.mem_singleton.mp hmem]
  · intro h
    refine ⟨s.map ([·]), by simp [← List.flatMap_def], fun part hpart => ?_⟩
    obtain ⟨c, hc, rfl⟩ := List.mem_map.mp hpart
    exact ⟨c, h c hc, rfl⟩

theorem mem_numberLanguage : s ∈ numberLanguage ↔ isNumber s = true := by
  rw [numberLanguage, Language.mem_add, mem_oneOf_mul]
  constructor
  · rintro (hzero | ⟨c, digits, hc, hdigits, rfl⟩)
    · obtain rfl : s = ['0'] := hzero
      rfl
    · exact (isNumber_cons c digits).mpr (.inr ⟨by simpa using hc, mem_kstar_oneOf.mp hdigits⟩)
  · intro h
    cases s with
    | nil => cases h
    | cons c digits =>
      rcases (isNumber_cons c digits).mp h with ⟨rfl, rfl⟩ | ⟨hc, hdigits⟩
      · exact .inl rfl
      · exact .inr ⟨c, digits, by simpa using hc, mem_kstar_oneOf.mpr hdigits, rfl⟩

theorem mem_preReleaseLanguage : s ∈ preReleaseLanguage ↔ isPreRelease s = true := by
  rw [preReleaseLanguage, Language.mem_add, mem_numberLanguage, isPreRelease, Bool.or_eq_true,
    isMixed_iff, Language.mem_mul]
  refine or_congr_right ⟨?_, ?_⟩
  · rintro ⟨digits, hdigits, behind, hbehind, rfl⟩
    obtain ⟨c, rest, hc, hrest, rfl⟩ := mem_oneOf_mul.mp hbehind
    exact ⟨digits, c, rest, rfl, mem_kstar_oneOf.mp hdigits, by simpa using hc,
      mem_kstar_oneOf.mp hrest⟩
  · rintro ⟨digits, c, rest, rfl, hdigits, hc, hrest⟩
    refine ⟨digits, mem_kstar_oneOf.mpr hdigits, c :: rest, mem_oneOf_mul.mpr ?_, rfl⟩
    exact ⟨c, rest, by simpa using hc, mem_kstar_oneOf.mpr hrest, rfl⟩

theorem mem_identifierLanguage : s ∈ identifierLanguage ↔ isBuild s = true := by
  rw [identifierLanguage, mem_oneOf_mul]
  constructor
  · rintro ⟨c, rest, hc, hrest, rfl⟩
    simpa [isBuild, hc] using mem_kstar_oneOf.mp hrest
  · intro h
    cases s with
    | nil => cases h
    | cons c rest =>
      have hchars := isIdentifierChar_of_isBuild h
      refine ⟨c, rest, hchars c List.mem_cons_self, mem_kstar_oneOf.mpr fun d hd => ?_, rfl⟩
      exact hchars d (List.mem_cons_of_mem _ hd)

/-- The dots with the items behind them, as a list of items. -/
theorem mem_kstar_dot : s ∈ (literal '.' * item)∗ ↔
    ∃ ids : List (List Char), (∀ id ∈ ids, id ∈ item) ∧ ids.flatMap ('.' :: ·) = s := by
  rw [Language.mem_kstar]
  constructor
  · rintro ⟨parts, rfl, hparts⟩
    induction parts with
    | nil => exact ⟨[], by simp, rfl⟩
    | cons part others ih =>
      obtain ⟨ids, hids, hflat⟩ := ih fun other hother =>
        hparts other (List.mem_cons_of_mem _ hother)
      obtain ⟨id, hid, rfl⟩ := mem_literal_mul.mp (hparts part List.mem_cons_self)
      refine ⟨id :: ids, List.forall_mem_cons.mpr ⟨hid, hids⟩, ?_⟩
      rw [List.flatMap_cons, List.flatten_cons, hflat]
  · rintro ⟨ids, hids, rfl⟩
    refine ⟨ids.map ('.' :: ·), List.flatMap_def, fun part hpart => ?_⟩
    obtain ⟨id, hid, rfl⟩ := List.mem_map.mp hpart
    exact mem_literal_mul.mpr ⟨id, hids id hid, rfl⟩

theorem dotted_cons (id : List Char) (ids : List (List Char)) :
    dotted (id :: ids) = id ++ ids.flatMap ('.' :: ·) := by
  induction ids generalizing id with
  | nil => simp [dotted, joinPieces, List.intercalate]
  | cons next others ih =>
    rw [dotted, joinPieces_cons_cons, List.flatMap_cons, List.cons_append, ← ih]
    rfl

theorem mem_dottedLanguage : s ∈ dottedLanguage item ↔
    ∃ ids, (ids ≠ [] ∧ ∀ id ∈ ids, id ∈ item) ∧ dotted ids = s := by
  rw [dottedLanguage, Language.mem_mul]
  constructor
  · rintro ⟨id, hid, behind, hbehind, rfl⟩
    obtain ⟨ids, hids, rfl⟩ := mem_kstar_dot.mp hbehind
    exact ⟨id :: ids, ⟨List.cons_ne_nil _ _, List.forall_mem_cons.mpr ⟨hid, hids⟩⟩,
      dotted_cons id ids⟩
  · rintro ⟨ids, ⟨hne, hids⟩, rfl⟩
    cases ids with
    | nil => contradiction
    | cons id others =>
      obtain ⟨hid, hothers⟩ := List.forall_mem_cons.mp hids
      exact ⟨id, hid, _, mem_kstar_dot.mpr ⟨others, hothers, rfl⟩, (dotted_cons id others).symm⟩

theorem mem_announcedLanguage {sign : Char} : s ∈ announcedLanguage sign (dottedLanguage item) ↔
    ∃ back, Listed (· ∈ item) back ∧ announced sign (back.map dotted) = s := by
  rw [announcedLanguage, Language.mem_add, Language.mem_one, mem_literal_mul]
  constructor
  · rintro (rfl | ⟨more, hmore, rfl⟩)
    · exact ⟨none, nofun, rfl⟩
    · obtain ⟨ids, hids, rfl⟩ := mem_dottedLanguage.mp hmore
      exact ⟨some ids, fun _ hmem => Option.some.inj hmem ▸ hids, rfl⟩
  · rintro ⟨back, hback, rfl⟩
    cases back with
    | none => exact .inl rfl
    | some ids => exact .inr ⟨dotted ids, mem_dottedLanguage.mpr ⟨ids, hback ids rfl, rfl⟩, rfl⟩

theorem mem_coreLanguage : s ∈ coreLanguage ↔ ∃ major minor patch,
    (∀ id ∈ [major, minor, patch], isNumber id = true) ∧ dotted [major, minor, patch] = s := by
  rw [coreLanguage, Language.mem_mul]
  constructor
  · rintro ⟨major, hmajor, behind, hbehind, rfl⟩
    obtain ⟨rest, hrest, rfl⟩ := mem_literal_mul.mp hbehind
    obtain ⟨minor, hminor, last, hlast, rfl⟩ := Language.mem_mul.mp hrest
    obtain ⟨patch, hpatch, rfl⟩ := mem_literal_mul.mp hlast
    rw [mem_numberLanguage] at hmajor hminor hpatch
    exact ⟨major, minor, patch, by simp [hmajor, hminor, hpatch], by simp [dotted_cons]⟩
  · rintro ⟨major, minor, patch, hnumbers, rfl⟩
    simp only [List.forall_mem_cons, ← mem_numberLanguage] at hnumbers
    obtain ⟨hmajor, hminor, hpatch, -⟩ := hnumbers
    have hlast : minor ++ '.' :: patch ∈ numberLanguage * (literal '.' * numberLanguage) :=
      Language.mem_mul.mpr ⟨minor, hminor, _, mem_literal_mul.mpr ⟨patch, hpatch, rfl⟩, rfl⟩
    exact ⟨major, hmajor, _, mem_literal_mul.mpr ⟨_, hlast, rfl⟩, by simp [dotted_cons]⟩

/-- The texts that are recognized are those that the expression matches. -/
theorem isVersionText_iff_mem : isVersionText s = true ↔ s ∈ versionLanguage := by
  constructor
  · intro h
    obtain ⟨parts, hparts, rfl⟩ := exists_recognized h
    refine Language.mem_mul.mpr ⟨_, Language.mem_mul.mpr ⟨_, ?_, _, ?_, rfl⟩, _, ?_, rfl⟩
    · exact mem_coreLanguage.mpr ⟨_, _, _, hparts.numbers, rfl⟩
    · refine mem_announcedLanguage.mpr ⟨parts.preRelease, ?_, rfl⟩
      simpa only [mem_preReleaseLanguage] using hparts.preRelease
    · refine mem_announcedLanguage.mpr ⟨parts.build, ?_, rfl⟩
      simpa only [mem_identifierLanguage] using hparts.build
  · intro h
    obtain ⟨numbered, hnumbered, plused, hplused, rfl⟩ := Language.mem_mul.mp h
    obtain ⟨core, hcore, dashed, hdashed, rfl⟩ := Language.mem_mul.mp hnumbered
    obtain ⟨major, minor, patch, hnumbers, rfl⟩ := mem_coreLanguage.mp hcore
    obtain ⟨preRelease, hpre, rfl⟩ := mem_announcedLanguage.mp hdashed
    obtain ⟨build, hbuild, rfl⟩ := mem_announcedLanguage.mp hplused
    simp only [mem_preReleaseLanguage] at hpre
    simp only [mem_identifierLanguage] at hbuild
    have hparts : Parts.Recognized ⟨major, minor, patch, preRelease, build⟩ :=
      ⟨hnumbers, hpre, hbuild⟩
    have hversion := isVersionText_text hparts
    exact hversion

end CommitStyle.Version
