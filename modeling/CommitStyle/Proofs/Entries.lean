import CommitStyle.Entries
import Mathlib.Data.List.Nodup

/-! What a key finds after an entry is put in, and after other entries are merged
in. Putting an entry in takes no key away. Merging wants the later entries to
have each key once, as those of a dictionary do. -/

namespace CommitStyle.Entries

variable {α κ : Type} [DecidableEq κ]

/-- A key that is not there yet is put last. -/
theorem insert_fresh {entries : Entries α κ} {key : κ} (h : key ∉ entries.keys) (value : α) :
    insert entries key value = entries ++ [(key, value)] := by
  induction entries with
  | nil => rfl
  | cons entry rest ih =>
    simp only [keys, List.map_cons, List.mem_cons, not_or] at h
    rw [insert, if_neg (by simpa using Ne.symm h.1), ih h.2]
    rfl

theorem get?_cons (entry : κ × α) (entries : Entries α κ) (key : κ) :
    get? (entry :: entries) key = if entry.1 = key then some entry.2 else get? entries key := by
  by_cases h : entry.1 = key <;> simp [get?, h]

theorem get?_append (entries later : Entries α κ) (key : κ) :
    get? (entries ++ later) key = (get? entries key).or (get? later key) := by
  simp only [get?, List.find?_append]
  cases entries.find? fun entry => entry.1 == key <;> rfl

theorem get?_eq_none {entries : Entries α κ} {key : κ} (h : key ∉ entries.keys) :
    get? entries key = none := by
  induction entries with
  | nil => rfl
  | cons entry rest ih =>
    simp only [keys, List.map_cons, List.mem_cons, not_or] at h
    rw [get?_cons, if_neg (Ne.symm h.1)]
    exact ih h.2

theorem get?_of_mem_keys {entries : Entries α κ} {key : κ} (h : key ∈ entries.keys) :
    ∃ value, get? entries key = some value := by
  obtain ⟨entry, he, rfl⟩ := List.mem_map.mp h
  exact Option.isSome_iff_exists.mp
    (by rw [get?, Option.isSome_map, List.find?_isSome]; exact ⟨entry, he, beq_self_eq_true _⟩)

/-- Putting an entry in takes no key away. -/
theorem mem_keys_insert {entries : Entries α κ} {other : κ} (h : other ∈ entries.keys) (key : κ)
    (value : α) : other ∈ (insert entries key value).keys := by
  induction entries with
  | nil => cases h
  | cons entry rest ih =>
    rw [insert]
    split
    · exact h
    · rcases List.mem_cons.mp h with rfl | h
      · exact List.mem_cons_self
      · exact List.mem_cons_of_mem _ (ih h)

/-- A key that is put in stands last, unless it was there. -/
theorem keys_insert (entries : Entries α κ) (key : κ) (value : α) :
    (insert entries key value).keys =
      if key ∈ entries.keys then entries.keys else entries.keys ++ [key] := by
  induction entries with
  | nil => simp [insert, keys]
  | cons entry rest ih =>
    obtain ⟨other, kept⟩ := entry
    simp only [keys] at ih
    simp only [insert, keys, beq_iff_eq, List.map_cons, List.mem_cons]
    by_cases h : other = key
    · simp [h]
    · rw [if_neg h, List.map_cons, ih]
      by_cases hmem : key ∈ rest.map Prod.fst <;> simp [hmem, Ne.symm h]

theorem nodup_insert {entries : Entries α κ} (h : entries.keys.Nodup) (key : κ) (value : α) :
    (insert entries key value).keys.Nodup := by
  rw [keys_insert]
  split
  · exact h
  · rename_i hnew
    refine List.nodup_append.mpr ⟨h, by simp, fun other hmem key' hkey => ?_⟩
    rw [List.mem_singleton.mp hkey]
    rintro rfl
    exact hnew hmem

theorem mem_insert {entries : Entries α κ} {key : κ} {value : α} {entry : κ × α}
    (h : entry ∈ insert entries key value) : entry = (key, value) ∨ entry ∈ entries := by
  induction entries with
  | nil => simpa [insert] using h
  | cons other rest ih =>
    simp only [insert, beq_iff_eq] at h
    split at h
    · rename_i hkey
      rcases List.mem_cons.mp h with rfl | h
      · exact .inl (by rw [hkey])
      · exact .inr (List.mem_cons_of_mem _ h)
    · rcases List.mem_cons.mp h with rfl | h
      · exact .inr List.mem_cons_self
      · exact (ih h).imp_right (List.mem_cons_of_mem _)

/-- Where each key stands once, every entry is found. -/
theorem get?_of_mem {entries : Entries α κ} (hkeys : entries.keys.Nodup) {key : κ} {value : α}
    (h : (key, value) ∈ entries) : get? entries key = some value := by
  induction entries with
  | nil => cases h
  | cons entry rest ih =>
    obtain ⟨hnew, hrest⟩ := List.nodup_cons.mp hkeys
    rcases List.mem_cons.mp h with rfl | h
    · simp [get?]
    · have hne : entry.1 ≠ key := fun heq => hnew (heq ▸ List.mem_map_of_mem h)
      have hfind := ih hrest h
      rw [get?] at hfind ⊢
      rwa [List.find?_cons_of_neg (by simpa using hne)]

theorem get?_insert (entries : Entries α κ) (key : κ) (value : α) (other : κ) :
    get? (insert entries key value) other =
      if key = other then some value else get? entries other := by
  induction entries with
  | nil => simp [insert, get?_cons]
  | cons entry rest ih =>
    simp only [insert, beq_iff_eq]
    by_cases he : entry.1 = key
    · rw [if_pos he, get?_cons, get?_cons, he]
      by_cases hk : key = other <;> simp [hk]
    · rw [if_neg he, get?_cons, ih, get?_cons]
      by_cases ho : entry.1 = other
      · rw [if_pos ho, if_pos ho, if_neg fun hk => he (ho.trans hk.symm)]
      · rw [if_neg ho, if_neg ho]

theorem get?_insertNew (entries : Entries α κ) (key : κ) (value : α) (other : κ) :
    get? (insertNew entries key value) other =
      (get? entries other).or (if key = other then some value else none) := by
  by_cases h : entries.has key = true
  · rw [insertNew, if_pos h]
    by_cases hk : key = other
    · obtain ⟨found, hf⟩ := Option.isSome_iff_exists.mp (hk ▸ h)
      simp [hf]
    · simp [hk]
  · rw [insertNew, if_neg h, get?_append, get?_cons]
    rfl

theorem nodup_insertNew {entries : Entries α κ} (h : entries.keys.Nodup) (key : κ) (value : α) :
    (insertNew entries key value).keys.Nodup := by
  by_cases hn : entries.has key = true
  · rw [insertNew, if_pos hn]
    exact h
  · rw [insertNew, if_neg hn]
    have hkey : key ∉ entries.keys := by
      intro hm
      obtain ⟨found, hf⟩ := get?_of_mem_keys hm
      simp [has, hf] at hn
    simp only [keys, List.map_append, List.map_cons, List.map_nil]
    exact List.nodup_append.mpr ⟨h, by simp, fun a ha b hb => by
      rintro rfl
      simp at hb
      exact hkey (hb ▸ ha)⟩

/-- A key finds what was merged in, or else what was there. -/
theorem get?_update (entries : Entries α κ) {later : Entries α κ} (hlater : later.keys.Nodup)
    (key : κ) : get? (update entries later) key = (get? later key).or (get? entries key) := by
  induction later generalizing entries with
  | nil => rfl
  | cons entry rest ih =>
    obtain ⟨hnew, hrest⟩ := List.nodup_cons.mp hlater
    show get? (update (insert entries entry.1 entry.2) rest) key = _
    rw [ih _ hrest, get?_insert, get?_cons]
    by_cases hk : entry.1 = key
    · rw [if_pos hk, if_pos hk, get?_eq_none (hk ▸ hnew)]
      rfl
    · rw [if_neg hk, if_neg hk]

/-- A key finds the last of what was merged in on it, or else what was there. -/
theorem get?_update_reverse (entries later : Entries α κ) (key : κ) :
    get? (update entries later) key = (get? later.reverse key).or (get? entries key) := by
  induction later generalizing entries with
  | nil => rfl
  | cons entry rest ih =>
    show get? (update (insert entries entry.1 entry.2) rest) key = _
    rw [ih, get?_insert, List.reverse_cons, get?_append, get?_cons, Option.or_assoc]
    by_cases hk : entry.1 = key
    · rw [if_pos hk, if_pos hk]
      rfl
    · rw [if_neg hk, if_neg hk]
      rfl

/-- The entries with another value wherever there is one on the key. -/
def replaceAll (entries : Entries α κ) (key : κ) (value : α) : Entries α κ :=
  entries.map fun entry => if entry.1 = key then (key, value) else entry

theorem get?_replaceAll (entries : Entries α κ) (key : κ) (value : α) (other : κ) :
    get? (replaceAll entries key value) other =
      if key = other then (get? entries other).map fun _ => value else get? entries other := by
  induction entries with
  | nil => simp [replaceAll, get?]
  | cons entry rest ih =>
    show get? ((if entry.1 = key then (key, value) else entry) :: replaceAll rest key value) other =
      _
    rw [get?_cons, get?_cons, ih]
    by_cases hentry : entry.1 = key
    · subst hentry
      by_cases hother : entry.1 = other <;> simp [hother]
    · rw [if_neg hentry]
      by_cases hother : entry.1 = other
      · have hkey : key ≠ other := fun heq => hentry (hother.trans heq.symm)
        simp [hother, hkey]
      · simp [hother]

theorem replaceAll_append (entries later : Entries α κ) (key : κ) (value : α) :
    replaceAll (entries ++ later) key value =
      replaceAll entries key value ++ replaceAll later key value := List.map_append

theorem reverse_replaceAll (entries : Entries α κ) (key : κ) (value : α) :
    (replaceAll entries key value).reverse = replaceAll entries.reverse key value :=
  List.map_reverse.symm

end CommitStyle.Entries
