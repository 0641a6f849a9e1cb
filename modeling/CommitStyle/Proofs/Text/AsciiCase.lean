import CommitStyle.Casing

/-! Letter case of ASCII texts. Each character is mapped by itself there, so a text
can be cased again and again: only its last casing shows. Texts past ASCII have
no such luck, the upper case of one character may be two. -/

namespace CommitStyle

namespace Text

def IsAscii (s : List Char) : Prop := ∀ c ∈ s, c.toNat < 0x80

instance (s : List Char) : Decidable (IsAscii s) :=
  List.decidableBAll (fun c : Char => c.toNat < 0x80) s

theorem IsAscii.cons {c : Char} {rest : List Char} (h : IsAscii (c :: rest)) :
    c.toNat < 0x80 ∧ IsAscii rest :=
  ⟨h c (by simp), fun d hd => h d (by simp [hd])⟩

theorem lowerBetween_ascii (before after : List Char) {c : Char} (h : c.toNat < 0x80) :
    lowerBetween before c after = [c.toLower] := by
  have hsigma : (c == 'Σ') = false := by
    rw [beq_eq_false_iff_ne]
    rintro rfl
    exact absurd h (by decide)
  simp only [lowerBetween, hsigma, lowerChar, h, if_true, Bool.false_eq_true, if_false]

theorem lowerAfter_ascii (before : List Char) {s : List Char} (h : IsAscii s) :
    lowerAfter before s = s.map Char.toLower := by
  induction s generalizing before with
  | nil => rfl
  | cons c rest ih =>
    rw [lowerAfter, lowerBetween_ascii _ _ h.cons.1, ih _ h.cons.2]
    rfl

theorem lowerChars_ascii {s : List Char} (h : IsAscii s) :
    lowerChars s = s.map Char.toLower :=
  lowerAfter_ascii [] h

theorem upperChar_ascii {c : Char} (h : c.toNat < 0x80) : upperChar c = [c.toUpper] := by
  rw [upperChar, if_pos h]

theorem upperChars_ascii {s : List Char} (h : IsAscii s) :
    upperChars s = s.map Char.toUpper := by
  induction s with
  | nil => rfl
  | cons c rest ih =>
    rw [upperChars, List.flatMap_cons, upperChar_ascii h.cons.1, ← upperChars, ih h.cons.2]
    rfl

/-- A property of ASCII characters can be looked up for each of them. -/
theorem forall_ascii {P : Char → Prop} (h : ∀ n < 0x80, P (Char.ofNat n)) {c : Char}
    (hc : c.toNat < 0x80) : P c := by
  have hn := h c.toNat hc
  rwa [Char.ofNat_toNat] at hn

theorem toLower_ascii {c : Char} (h : c.toNat < 0x80) : c.toLower.toNat < 0x80 :=
  forall_ascii (P := fun c => c.toLower.toNat < 0x80) (by decide) h

theorem toUpper_ascii {c : Char} (h : c.toNat < 0x80) : c.toUpper.toNat < 0x80 :=
  forall_ascii (P := fun c => c.toUpper.toNat < 0x80) (by decide) h

/-- Past ASCII no character has a lower case within it. -/
theorem toLower_of_not_ascii {c : Char} (h : ¬ c.toNat < 0x80) : c.toLower = c := by
  have hval : c.toNat = c.val.toNat := rfl
  unfold Char.toLower
  split
  · rename_i hupper
    have hlast := UInt32.le_iff_toNat_le.mp hupper.2
    simp at hlast
    omega
  · rfl

theorem ascii_of_toLower {c : Char} (h : c.toLower.toNat < 0x80) : c.toNat < 0x80 := by
  by_cases hc : c.toNat < 0x80
  · exact hc
  · rwa [toLower_of_not_ascii hc] at h

theorem toLower_toLower {c : Char} (h : c.toNat < 0x80) : c.toLower.toLower = c.toLower :=
  forall_ascii (P := fun c => c.toLower.toLower = c.toLower) (by decide) h

theorem toLower_toUpper {c : Char} (h : c.toNat < 0x80) : c.toUpper.toLower = c.toLower :=
  forall_ascii (P := fun c => c.toUpper.toLower = c.toLower) (by decide) h

theorem toUpper_toLower {c : Char} (h : c.toNat < 0x80) : c.toLower.toUpper = c.toUpper :=
  forall_ascii (P := fun c => c.toLower.toUpper = c.toUpper) (by decide) h

theorem map_toUpper_toLower {s : List Char} (h : IsAscii s) :
    (s.map Char.toLower).map Char.toUpper = s.map Char.toUpper := by
  rw [List.map_map]
  exact List.map_congr_left fun c hc => toUpper_toLower (h c hc)

theorem IsAscii.map {s : List Char} (h : IsAscii s) {f : Char → Char}
    (hf : ∀ {c : Char}, c.toNat < 0x80 → (f c).toNat < 0x80) : IsAscii (s.map f) := by
  intro c hc
  obtain ⟨d, hd, rfl⟩ := List.mem_map.mp hc
  exact hf (h d hd)

end Text

namespace Casing

open Text

variable {casing : Casing} {s t : List Char}

theorem applyChars_ascii_cons {c : Char} (h : IsAscii (c :: s)) :
    Casing.capitalize.applyChars (c :: s) = c.toUpper :: s.map Char.toLower := by
  rw [applyChars, upperChar_ascii h.cons.1, lowerChars_ascii h.cons.2]
  rfl

theorem isAscii_applyChars (casing : Casing) (h : IsAscii s) : IsAscii (casing.applyChars s) := by
  cases casing with
  | lower => rw [applyChars, lowerChars_ascii h]; exact h.map toLower_ascii
  | upper => rw [applyChars, upperChars_ascii h]; exact h.map toUpper_ascii
  | capitalize =>
    cases s with
    | nil => exact h
    | cons c rest =>
      rw [applyChars_ascii_cons h]
      intro d hd
      rcases List.mem_cons.mp hd with rfl | hd
      · exact toUpper_ascii h.cons.1
      · exact h.cons.2.map toLower_ascii d hd
  | asProvided => exact h

/-- Casing does not show in lower case. -/
theorem lowerChars_applyChars (casing : Casing) (h : IsAscii s) :
    lowerChars (casing.applyChars s) = lowerChars s := by
  rw [lowerChars_ascii (isAscii_applyChars casing h), lowerChars_ascii h]
  cases casing with
  | lower =>
    rw [applyChars, lowerChars_ascii h, List.map_map]
    exact List.map_congr_left fun c hc => toLower_toLower (h c hc)
  | upper =>
    rw [applyChars, upperChars_ascii h, List.map_map]
    exact List.map_congr_left fun c hc => toLower_toUpper (h c hc)
  | capitalize =>
    cases s with
    | nil => rfl
    | cons c rest =>
      rw [applyChars_ascii_cons h, List.map_cons, List.map_cons, List.map_map,
        toLower_toUpper h.cons.1]
      refine congrArg (c.toLower :: ·) (List.map_congr_left fun d hd => ?_)
      exact toLower_toLower (h.cons.2 d hd)
  | asProvided => rfl

/-- Texts that have the same lower case are cased alike. -/
theorem applyChars_congr (hc : casing ≠ .asProvided) (hs : IsAscii s) (ht : IsAscii t)
    (h : lowerChars s = lowerChars t) : casing.applyChars s = casing.applyChars t := by
  have hlower : s.map Char.toLower = t.map Char.toLower := by
    rwa [lowerChars_ascii hs, lowerChars_ascii ht] at h
  have hupper : s.map Char.toUpper = t.map Char.toUpper := by
    rw [← map_toUpper_toLower hs, ← map_toUpper_toLower ht, hlower]
  cases casing with
  | lower => exact h
  | upper => rw [applyChars, applyChars, upperChars_ascii hs, upperChars_ascii ht, hupper]
  | capitalize =>
    cases s with
    | nil => rw [List.map_eq_nil_iff.mp hlower.symm]
    | cons c rest =>
      cases t with
      | nil => cases hlower
      | cons d others =>
        rw [applyChars_ascii_cons hs, applyChars_ascii_cons ht, (List.cons.inj hupper).1,
          (List.cons.inj hlower).2]
  | asProvided => exact absurd rfl hc

theorem lower_apply (casing : Casing) {value : String} (h : IsAscii value.toList) :
    Text.lower (casing.apply value) = Text.lower value := by
  simp only [Text.lower, apply, String.toList_ofList, lowerChars_applyChars casing h]

theorem apply_congr (hc : casing ≠ .asProvided) {value other : String}
    (hv : IsAscii value.toList) (ho : IsAscii other.toList)
    (h : Text.lower value = Text.lower other) : casing.apply value = casing.apply other := by
  have hl : lowerChars value.toList = lowerChars other.toList := String.ofList_injective h
  rw [apply, apply, applyChars_congr hc hv ho hl]

/-- Only the last casing shows. -/
theorem apply_apply (hc : casing ≠ .asProvided) (first : Casing) {value : String}
    (h : IsAscii value.toList) : casing.apply (first.apply value) = casing.apply value := by
  have hfirst : IsAscii (first.apply value).toList := by
    rw [apply, String.toList_ofList]
    exact isAscii_applyChars first h
  exact apply_congr hc hfirst h (lower_apply first h)

end Casing

end CommitStyle
