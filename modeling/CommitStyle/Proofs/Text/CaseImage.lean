import CommitStyle.Proofs.Text.AsciiCase
import CommitStyle.Proofs.Text.Trimming

/-! What letter case leaves alone, in every script. The characters that set the parts
of a title apart have no case: the mappings neither move them nor lead to them, and
they map no character to nothing. So a text that is cased keeps its ends, and has
white space, parentheses and colons where it had them. -/

namespace CommitStyle

namespace Text

def isDelimiter (c : Char) : Bool := isBlank c || c == '(' || c == ')' || c == ':'

def delimiterRanges : List (Nat × Nat) :=
  [(0x09, 0x0D), (0x1C, 0x20), (0x28, 0x29), (0x3A, 0x3A), (0x85, 0x85), (0xA0, 0xA0),
    (0x1680, 0x1680), (0x2000, 0x200A), (0x2028, 0x2029), (0x202F, 0x202F), (0x205F, 0x205F),
    (0x3000, 0x3000)]

theorem isDelimiter_iff {c : Char} :
    isDelimiter c = true ↔ ∃ r ∈ delimiterRanges, r.1 ≤ c.toNat ∧ c.toNat ≤ r.2 := by
  have hcode (d : Char) : c = d ↔ c.toNat = d.toNat := Char.toNat_inj.symm
  simp [isDelimiter, isBlank, delimiterRanges, hcode]
  omega

/-- What a case mapping may make of a character. -/
structure Image (c : Char) (piece : List Char) : Prop where
  ne_nil : piece ≠ []
  kept : isDelimiter c = true → piece = [c]
  clean : isDelimiter c = false → ∀ d ∈ piece, isDelimiter d = false

/-- Neither the characters that the tables map nor those that they lead to are delimiters. -/
def Spares (runs : List CaseRun) (extras : List (Nat × List Nat)) : Prop :=
  (∀ run ∈ runs, ∀ r ∈ delimiterRanges,
    (run.2.1 < r.1 ∨ r.2 < run.1) ∧
      (run.2.1 + run.2.2.2 < r.1 ∨ (r.2 : Int) < run.1 + run.2.2.2)) ∧
  ∀ extra ∈ extras, isDelimiter (Char.ofNat extra.1) = false ∧ extra.2 ≠ [] ∧
    ∀ code ∈ extra.2, isDelimiter (Char.ofNat code) = false

theorem spares_lower : Spares lowerRuns lowerExtras := by
  unfold Spares
  decide +kernel

theorem spares_upper : Spares upperRuns upperExtras := by
  unfold Spares
  decide +kernel

theorem not_isDelimiter_ofNat {code : Nat}
    (h : ∀ r ∈ delimiterRanges, code < r.1 ∨ r.2 < code) :
    isDelimiter (Char.ofNat code) = false := by
  rw [← Bool.not_eq_true, isDelimiter_iff]
  rintro ⟨r, hr, hlow, hhigh⟩
  by_cases hv : code.isValidChar
  · have hcode : (Char.ofNat code).toNat = code := by
      rw [Char.ofNat, dif_pos hv]
      rfl
    rcases h r hr with hlt | hlt <;> omega
  · -- what is no code point stands for the null character
    have hnull : (Char.ofNat code).toNat = 0 := by
      rw [Char.ofNat, dif_neg hv]
      rfl
    have hpos : 0 < r.1 := (by decide : ∀ r ∈ delimiterRanges, 0 < r.1) r hr
    omega

theorem image_self (c : Char) : Image c [c] :=
  ⟨by simp, fun _ => rfl, fun h d hd => List.mem_singleton.mp hd ▸ h⟩

theorem image_of_not_delimiter {c : Char} {piece : List Char} (hc : isDelimiter c = false)
    (hne : piece ≠ []) (h : ∀ d ∈ piece, isDelimiter d = false) : Image c piece :=
  ⟨hne, fun hd => absurd hd (by simp [hc]), fun _ => h⟩

theorem image_mapCase {runs : List CaseRun} {extras : List (Nat × List Nat)}
    (h : Spares runs extras) (c : Char) : Image c (mapCase runs extras c.toNat) := by
  unfold mapCase
  split
  · rename_i first last step shift hfind
    have hspared := h.1 _ (List.mem_of_find?_eq_some hfind)
    have hin := List.find?_some hfind
    simp only [Bool.and_eq_true, decide_eq_true_eq] at hin hspared
    refine image_of_not_delimiter ?_ (by simp) ?_
    · rw [← Char.ofNat_toNat c]
      refine not_isDelimiter_ofNat fun r hr => ?_
      rcases (hspared r hr).1 with hlt | hlt <;> omega
    · intro d hd
      rw [List.mem_singleton.mp hd]
      refine not_isDelimiter_ofNat fun r hr => ?_
      have hpos : 0 < r.1 := (by decide : ∀ r ∈ delimiterRanges, 0 < r.1) r hr
      rcases (hspared r hr).2 with hlt | hlt <;> omega
  · split
    · rename_i code image hfind
      obtain ⟨hcode, hne, himage⟩ := h.2 _ (List.mem_of_find?_eq_some hfind)
      have heq : code = c.toNat := by simpa using List.find?_some hfind
      rw [heq, Char.ofNat_toNat] at hcode
      refine image_of_not_delimiter hcode (by simpa using hne) fun d hd => ?_
      obtain ⟨other, ho, rfl⟩ := List.mem_map.mp hd
      exact himage other ho
    · rw [Char.ofNat_toNat]
      exact image_self c

theorem isDelimiter_toLower {c : Char} (h : c.toNat < 0x80) :
    isDelimiter c.toLower = isDelimiter c ∧ (isDelimiter c = true → c.toLower = c) :=
  forall_ascii (P := fun c => isDelimiter c.toLower = isDelimiter c ∧
    (isDelimiter c = true → c.toLower = c)) (by decide) h

theorem isDelimiter_toUpper {c : Char} (h : c.toNat < 0x80) :
    isDelimiter c.toUpper = isDelimiter c ∧ (isDelimiter c = true → c.toUpper = c) :=
  forall_ascii (P := fun c => isDelimiter c.toUpper = isDelimiter c ∧
    (isDelimiter c = true → c.toUpper = c)) (by decide) h

theorem image_singleton {c d : Char} (h : isDelimiter d = isDelimiter c)
    (hkept : isDelimiter c = true → d = c) : Image c [d] :=
  ⟨by simp, fun hc => by rw [hkept hc], fun hc e he => by rw [List.mem_singleton.mp he, h, hc]⟩

theorem image_lowerBetween (before after : List Char) (c : Char) :
    Image c (lowerBetween before c after) := by
  unfold lowerBetween
  split
  · rename_i hsigma
    rw [beq_iff_eq.mp hsigma]
    split <;> exact image_singleton (by decide) (by decide)
  · unfold lowerChar
    split
    · rename_i hascii
      exact image_singleton (isDelimiter_toLower hascii).1 (isDelimiter_toLower hascii).2
    · exact image_mapCase spares_lower c

theorem image_upperChar (c : Char) : Image c (upperChar c) := by
  unfold upperChar
  split
  · rename_i hascii
    exact image_singleton (isDelimiter_toUpper hascii).1 (isDelimiter_toUpper hascii).2
  · exact image_mapCase spares_upper c

/-! ## Whole texts -/

/-- A text and what a casing makes of it, character by character. -/
inductive Images : List Char → List Char → Prop
  | nil : Images [] []
  | cons {c : Char} {piece s t : List Char} :
    Image c piece → Images s t → Images (c :: s) (piece ++ t)

theorem images_refl : (s : List Char) → Images s s
  | [] => .nil
  | c :: rest => .cons (image_self c) (images_refl rest)

theorem images_lowerAfter (before s : List Char) : Images s (lowerAfter before s) := by
  induction s generalizing before with
  | nil => exact .nil
  | cons c rest ih => exact .cons (image_lowerBetween before rest c) (ih (c :: before))

theorem images_upperChars (s : List Char) : Images s (upperChars s) := by
  induction s with
  | nil => exact .nil
  | cons c rest ih => exact .cons (image_upperChar c) ih

theorem images_applyChars (casing : Casing) (s : List Char) : Images s (casing.applyChars s) := by
  cases casing with
  | lower => exact images_lowerAfter [] s
  | upper => exact images_upperChars s
  | capitalize =>
    cases s with
    | nil => exact .nil
    | cons c rest => exact .cons (image_upperChar c) (images_lowerAfter [] rest)
  | asProvided => exact images_refl s

variable {s t : List Char}

theorem Image.mem_delimiter {c d : Char} {piece : List Char} (h : Image c piece)
    (hd : isDelimiter d = true) : d ∈ piece ↔ d = c := by
  cases hc : isDelimiter c with
  | true => rw [h.kept hc, List.mem_singleton]
  | false =>
    refine iff_of_false (fun hm => ?_) (fun he => ?_)
    · rw [h.clean hc d hm] at hd
      cases hd
    · rw [he, hc] at hd
      cases hd

/-- Delimiters stand in both texts or in none. -/
theorem Images.mem_delimiter (h : Images s t) {d : Char} (hd : isDelimiter d = true) :
    d ∈ t ↔ d ∈ s := by
  induction h with
  | nil => exact Iff.rfl
  | cons himage _ ih => rw [List.mem_append, List.mem_cons, himage.mem_delimiter hd, ih]

theorem Image.isBlank {c : Char} {piece : List Char} (h : Image c piece) :
    ∀ d ∈ piece, isBlank d = isBlank c := by
  intro d hd
  cases hc : isDelimiter c with
  | true =>
    rw [h.kept hc] at hd
    rw [List.mem_singleton.mp hd]
  | false =>
    have hclean := h.clean hc d hd
    simp only [isDelimiter, Bool.or_eq_false_iff] at hc hclean
    rw [hc.1.1.1, hclean.1.1.1]

theorem keepsEnds_of_isBlank {p q : List Char} (hp : p ≠ []) (hq : q ≠ [])
    (h : ∀ c ∈ p, ∀ d ∈ q, isBlank d = isBlank c) : KeepsEnds p q := by
  refine ⟨iff_of_false hp hq, fun hhead d hd => ?_, fun hlast d hd => ?_⟩
  · rw [h _ (List.head_mem hp) d (List.mem_of_head? hd)]
    exact hhead _ (List.head?_eq_some_head hp)
  · rw [h _ (List.getLast_mem hp) d (List.mem_of_getLast? hd)]
    exact hlast _ (List.getLast?_eq_some_getLast hp)

theorem Images.keepsEnds (h : Images s t) : KeepsEnds s t ∧ KeepsEnds t s := by
  induction h with
  | nil => exact ⟨.refl [], .refl []⟩
  | @cons c piece s t himage _ ih =>
    have hsame := himage.isBlank
    constructor
    · refine KeepsEnds.append (s := [c]) (keepsEnds_of_isBlank (by simp) himage.ne_nil ?_) ih.1
      simpa using hsame
    · refine KeepsEnds.append (t := [c]) (keepsEnds_of_isBlank himage.ne_nil (by simp) ?_) ih.2
      simpa using fun d hd => (hsame d hd).symm

/-- Texts with the same lower case have the same delimiters, and are trimmed together. -/
theorem mem_iff_of_lowerChars_eq (h : lowerChars s = lowerChars t) {d : Char}
    (hd : isDelimiter d = true) : d ∈ s ↔ d ∈ t := by
  rw [← (images_lowerAfter [] s).mem_delimiter hd, ← (images_lowerAfter [] t).mem_delimiter hd]
  exact Eq.to_iff (congrArg (d ∈ ·) h)

theorem trimmed_of_lowerChars_eq (h : lowerChars s = lowerChars t) (ht : Trimmed t) :
    Trimmed s := by
  have hlower : Trimmed (lowerChars t) := (images_lowerAfter [] t).keepsEnds.1.trimmed ht
  rw [← h] at hlower
  exact (images_lowerAfter [] s).keepsEnds.2.trimmed hlower

end Text

end CommitStyle
