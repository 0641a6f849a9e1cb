import CommitStyle.Proofs.Text.AsciiCase
import CommitStyle.Slug

/-! Slugs, whatever they are made of, hold ASCII letters, digits and dashes only. Casing
keeps a text of these such a text. -/

namespace CommitStyle

namespace Text

/-- An ASCII letter, a digit or a dash. -/
def isPlain (c : Char) : Bool := c.isAlphanum || c == '-'

/-- A text that can stand anywhere in a branch name: it holds plain characters only, and at least
one. -/
structure IsPart (s : List Char) : Prop where
  ne_nil : s ≠ []
  plain : ∀ c ∈ s, isPlain c = true

instance (s : List Char) : Decidable (IsPart s) :=
  decidable_of_iff (s ≠ [] ∧ s.all isPlain = true)
    ⟨fun h => ⟨h.1, List.all_eq_true.mp h.2⟩, fun h => ⟨h.ne_nil, List.all_eq_true.mpr h.plain⟩⟩

/-! ## Casing -/

theorem isAscii_of_isPlain {c : Char} (h : isPlain c = true) : c.toNat < 0x80 := by
  have hbelow {last : Char} (hlast : last.toNat < 0x80) (hc : c.val ≤ last.val) : c.toNat < 0x80 :=
    Nat.lt_of_le_of_lt (UInt32.le_iff_toNat_le.mp hc) hlast
  rcases Bool.or_eq_true_iff.mp h with halphanum | hdash
  · rcases Bool.or_eq_true_iff.mp halphanum with halpha | hdigit
    · rcases Bool.or_eq_true_iff.mp halpha with hupper | hlower
      · exact hbelow (by decide : 'Z'.toNat < 0x80) (of_decide_eq_true hupper).2
      · exact hbelow (by decide : 'z'.toNat < 0x80)
          (of_decide_eq_true (Bool.and_eq_true_iff.mp hlower).2)
    · exact hbelow (by decide : '9'.toNat < 0x80)
        (of_decide_eq_true (Bool.and_eq_true_iff.mp hdigit).2)
  · rw [beq_iff_eq.mp hdash]
    decide

theorem IsPart.isAscii {s : List Char} (h : IsPart s) : IsAscii s := fun c hc =>
  isAscii_of_isPlain (h.plain c hc)

theorem isPlain_toLower {c : Char} (h : isPlain c = true) : isPlain c.toLower = true :=
  forall_ascii (P := fun c => isPlain c = true → isPlain c.toLower = true) (by decide)
    (isAscii_of_isPlain h) h

theorem isPlain_toUpper {c : Char} (h : isPlain c = true) : isPlain c.toUpper = true :=
  forall_ascii (P := fun c => isPlain c = true → isPlain c.toUpper = true) (by decide)
    (isAscii_of_isPlain h) h

theorem IsPart.map {s : List Char} (h : IsPart s) {f : Char → Char}
    (hf : ∀ {c : Char}, isPlain c = true → isPlain (f c) = true) : IsPart (s.map f) := by
  refine ⟨by simpa using h.ne_nil, fun c hc => ?_⟩
  obtain ⟨d, hd, rfl⟩ := List.mem_map.mp hc
  exact hf (h.plain d hd)

theorem IsPart.applyChars {s : List Char} (h : IsPart s) (casing : Casing) :
    IsPart (casing.applyChars s) := by
  cases casing with
  | lower =>
    rw [Casing.applyChars, lowerChars_ascii h.isAscii]
    exact h.map isPlain_toLower
  | upper =>
    rw [Casing.applyChars, upperChars_ascii h.isAscii]
    exact h.map isPlain_toUpper
  | capitalize =>
    cases s with
    | nil => exact h
    | cons c rest =>
      rw [Casing.applyChars_ascii_cons h.isAscii]
      refine ⟨by simp, fun d hd => ?_⟩
      rcases List.mem_cons.mp hd with rfl | hd
      · exact isPlain_toUpper (h.plain c (by simp))
      · obtain ⟨e, he, rfl⟩ := List.mem_map.mp hd
        exact isPlain_toLower (h.plain e (by simp [he]))
  | asProvided => exact h

theorem IsPart.apply {value : String} (h : IsPart value.toList) (casing : Casing) :
    IsPart (casing.apply value).toList := by
  rw [Casing.apply, String.toList_ofList]
  exact h.applyChars casing

end Text

namespace Slug

variable {preserveCase : Bool}

theorem isPlain_of_isKept {c : Char} (h : isKept preserveCase c = true) :
    Text.isPlain c = true := by
  have hkept : c.isAlphanum = true := by
    rcases Bool.or_eq_true_iff.mp h with h | hupper
    · rcases Bool.or_eq_true_iff.mp h with hdigit | hlower
      · exact Bool.or_eq_true_iff.mpr (.inr hdigit)
      · exact Bool.or_eq_true_iff.mpr (.inl (Bool.or_eq_true_iff.mpr (.inr hlower)))
    · simp only [Bool.and_eq_true, decide_eq_true_eq] at hupper
      have hbounds : c.isUpper = true := decide_eq_true ⟨hupper.1.2, hupper.2⟩
      exact Bool.or_eq_true_iff.mpr (.inl (Bool.or_eq_true_iff.mpr (.inl hbounds)))
  rw [Text.isPlain, hkept, Bool.true_or]

theorem words_ne_nil (s : List Char) : words preserveCase s ≠ [] := by
  cases s with
  | nil => simp [words]
  | cons c rest =>
    rw [words]
    split
    · simp
    · split <;> simp

theorem isKept_of_mem_words {s word : List Char} (h : word ∈ words preserveCase s) :
    ∀ c ∈ word, isKept preserveCase c = true := by
  induction s generalizing word with
  | nil =>
    rw [words, List.mem_singleton] at h
    simp [h]
  | cons c rest ih =>
    rw [words] at h
    split at h
    · rcases List.mem_cons.mp h with rfl | h
      · simp
      · exact ih h
    · have hword {first : List Char} (hfirst : ∀ d ∈ first, isKept preserveCase d = true) :
          ∀ d ∈ if isKept preserveCase c then c :: first else first,
            isKept preserveCase d = true := by
        split
        · rename_i hc
          exact List.forall_mem_cons.mpr ⟨hc, hfirst⟩
        · exact hfirst
      cases hrest : words preserveCase rest with
      | nil => exact absurd hrest (words_ne_nil rest)
      | cons first others =>
        rw [hrest] at h ih
        rcases List.mem_cons.mp h with rfl | h
        · exact hword (ih (by simp))
        · exact ih (by simp [h])

theorem mem_intercalate {separator : List Char} {parts : List (List Char)} {c : Char}
    (h : c ∈ separator.intercalate parts) : c ∈ separator ∨ ∃ part ∈ parts, c ∈ part := by
  induction parts with
  | nil => cases h
  | cons part rest ih =>
    cases rest with
    | nil => exact .inr ⟨part, by simp, by simpa [List.intercalate] using h⟩
    | cons next others =>
      rw [List.intercalate_cons_cons, List.append_assoc, List.mem_append, List.mem_append] at h
      rcases h with h | h | h
      · exact .inr ⟨part, by simp, h⟩
      · exact .inl h
      · rcases ih h with h | ⟨other, hmem, h⟩
        · exact .inl h
        · exact .inr ⟨other, by simp [hmem], h⟩

theorem isPlain_of_mem_ofChars {s : List Char} {c : Char} (h : c ∈ ofChars preserveCase s) :
    Text.isPlain c = true := by
  rcases mem_intercalate h with h | ⟨word, hword, hc⟩
  · rw [List.mem_singleton.mp h]
    decide
  · exact isPlain_of_isKept (isKept_of_mem_words (List.mem_filter.mp hword).1 c hc)

/-- A slug that is not empty can stand in a branch name. -/
theorem isPart_sanitize {value : String} (h : (sanitize value preserveCase).isEmpty = false) :
    Text.IsPart (sanitize value preserveCase).toList := by
  refine ⟨fun hnil => ?_, fun c hc => ?_⟩
  · simp [String.toList_eq_nil_iff.mp hnil] at h
  · rw [sanitize, String.toList_ofList] at hc
    exact isPlain_of_mem_ofChars hc

end Slug

end CommitStyle
