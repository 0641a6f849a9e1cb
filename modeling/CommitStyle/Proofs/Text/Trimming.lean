import CommitStyle.Text.Blank
import Mathlib.Data.List.DropRight

/-! A text is trimmed when no white space stands at either end of it, and trimming
makes every text so. -/

namespace CommitStyle.Text

/-- No white space at either end. -/
structure Trimmed (s : List Char) : Prop where
  head : ∀ c, s.head? = some c → isBlank c = false
  last : ∀ c, s.getLast? = some c → isBlank c = false

/-- What a scan over the front leaves behind it. -/
theorem drop_takeWhile (ofClass : Char → Bool) (s : List Char) :
    s.drop (s.takeWhile ofClass).length = s.dropWhile ofClass := by
  have hsplit := List.prefix_iff_eq_append.mp (List.takeWhile_prefix (l := s) ofClass)
  exact List.append_cancel_left (hsplit.trans List.takeWhile_append_dropWhile.symm)

theorem trimStart_of_trimmed {s : List Char} (h : Trimmed s) : trimStart s = s := by
  cases s with
  | nil => rfl
  | cons c rest => simp [trimStart, h.head c rfl]

theorem trimEnd_of_trimmed {s : List Char} (h : Trimmed s) : trimEnd s = s := by
  refine List.rdropWhile_eq_self_iff.mpr fun hne hb => ?_
  rw [h.last _ (List.getLast?_eq_some_getLast hne)] at hb
  contradiction

theorem trim_of_trimmed {s : List Char} (h : Trimmed s) : trim s = s := by
  rw [trim, trimStart_of_trimmed h, trimEnd_of_trimmed h]

theorem trimmed_trim (s : List Char) : Trimmed (trim s) := by
  constructor
  · intro c hc
    have hstart : (trimStart s).head? = some c := by
      obtain ⟨more, hm⟩ := List.rdropWhile_prefix isBlank (trimStart s)
      have hc' : ((trimStart s).rdropWhile isBlank).head? = some c := hc
      rw [← hm, List.head?_append, hc']
      rfl
    have hdrop := List.head?_dropWhile_not isBlank s
    rw [show s.dropWhile isBlank = trimStart s from rfl, hstart] at hdrop
    exact hdrop
  · intro c hc
    have hne : trim s ≠ [] := by
      rintro he
      rw [he] at hc
      contradiction
    have hl := List.rdropWhile_last_not isBlank (trimStart s) hne
    rw [List.getLast?_eq_some_getLast hne] at hc
    rw [← Option.some.inj hc]
    exact Bool.not_eq_true _ ▸ hl

theorem trim_trim (s : List Char) : trim (trim s) = trim s := trim_of_trimmed (trimmed_trim s)

theorem not_feed_suffix {s : List Char} (h : Trimmed s) : ¬ ['\n'] <:+ s := by
  rintro ⟨before, rfl⟩
  have hb := h.last '\n' (by simp)
  contradiction

theorem toList_strip (s : String) : (strip s).toList = trim s.toList := String.toList_ofList

theorem trimmed_strip (s : String) : Trimmed (strip s).toList := by
  rw [toList_strip]
  exact trimmed_trim s.toList

theorem strip_eq_self {s : String} : strip s = s ↔ Trimmed s.toList := by
  constructor
  · intro h
    have ht := trimmed_strip s
    rwa [h] at ht
  · intro h
    rw [strip, trim_of_trimmed h, String.ofList_toList]

theorem mem_of_mem_trim {s : List Char} {c : Char} (h : c ∈ trim s) : c ∈ s := by
  have hstart : c ∈ trimStart s := (List.rdropWhile_prefix isBlank (trimStart s)).subset h
  exact (List.dropWhile_suffix isBlank).subset hstart

theorem trim_eq_nil_iff {s : List Char} : trim s = [] ↔ ∀ c ∈ s, isBlank c = true := by
  constructor
  · intro h
    have hall := List.rdropWhile_eq_nil_iff.mp h
    refine List.dropWhile_eq_nil_iff.mp ?_
    cases hstart : s.dropWhile isBlank with
    | nil => rfl
    | cons c rest =>
      have hhead := List.head?_dropWhile_not isBlank s
      have hblank := hall c (by simp [trimStart, hstart])
      simp [hstart, hblank] at hhead
  · intro h
    rw [trim, trimStart, List.dropWhile_eq_nil_iff.mpr h]
    rfl

theorem Trimmed.of_forall {s : List Char} (h : ∀ c ∈ s, isBlank c = false) : Trimmed s :=
  ⟨fun c hc => h c (List.mem_of_head? hc), fun c hc => h c (List.mem_of_getLast? hc)⟩

/-! ## Texts with ends alike -/

/-- Where `s` begins or ends without white space, so does `t`; and only one that is empty
belongs to one that is empty. -/
structure KeepsEnds (s t : List Char) : Prop where
  nil_iff : s = [] ↔ t = []
  head : (∀ c, s.head? = some c → isBlank c = false) → ∀ c, t.head? = some c → isBlank c = false
  last : (∀ c, s.getLast? = some c → isBlank c = false) →
    ∀ c, t.getLast? = some c → isBlank c = false

theorem KeepsEnds.refl (s : List Char) : KeepsEnds s s := ⟨Iff.rfl, id, id⟩

theorem KeepsEnds.trimmed {s t : List Char} (h : KeepsEnds s t) (hs : Trimmed s) : Trimmed t :=
  ⟨h.head hs.head, h.last hs.last⟩

/-- A text without white space at its ends may stand for any other one. -/
theorem KeepsEnds.of_trimmed {s t : List Char} (hs : s ≠ []) (ht : t ≠ []) (h : Trimmed t) :
    KeepsEnds s t :=
  ⟨iff_of_false hs ht, fun _ => h.head, fun _ => h.last⟩

theorem KeepsEnds.append {s t s' t' : List Char} (h : KeepsEnds s t) (h' : KeepsEnds s' t') :
    KeepsEnds (s ++ s') (t ++ t') := by
  refine ⟨?_, ?_, ?_⟩
  · rw [List.append_eq_nil_iff, List.append_eq_nil_iff, h.nil_iff, h'.nil_iff]
  · by_cases hs : s = []
    · rw [hs, h.nil_iff.mp hs]
      exact h'.head
    · rw [List.head?_append_of_ne_nil _ hs, List.head?_append_of_ne_nil _ (mt h.nil_iff.mpr hs)]
      exact h.head
  · by_cases hs : s' = []
    · rw [hs, h'.nil_iff.mp hs, List.append_nil, List.append_nil]
      exact h.last
    · rw [List.getLast?_append_of_ne_nil _ hs,
        List.getLast?_append_of_ne_nil _ (mt h'.nil_iff.mpr hs)]
      exact h'.last

end CommitStyle.Text
