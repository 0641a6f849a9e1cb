import CommitStyle.KeyFile.Store
import CommitStyle.Proofs.Entries
import CommitStyle.Proofs.KeyFile.StoredLine

/-! Storing a key rewrites the text of a key file. Statement by statement, those on the key
give way to the line that stores it, and what is read of the others does not change; where
there is none, the line is added on its own. So the key is read with its new value, and of
every other key the same is read as before, whatever else the text holds. -/

namespace CommitStyle.KeyFile

variable {key value : String} {front rest other s t : List Char}

/-! ## The variables of a text -/

/-- The variables that the statements of a text are on, in order. -/
def entriesOf (s : List Char) : Variables := (bindings s).filterMap Binding.gives?

theorem bindings_nil : bindings [] = [] := by
  rw [bindings]
  rfl

theorem bindings_eq (h : s ≠ []) :
    bindings s = (Binding.read s).1 :: bindings (Binding.read s).2 := by
  rw [bindings, dif_neg h]

theorem entriesOf_nil : entriesOf [] = [] := by
  rw [entriesOf, bindings_nil]
  rfl

theorem entriesOf_eq (s : List Char) :
    entriesOf s = (Binding.read s).1.gives?.toList ++ entriesOf (Binding.read s).2 := by
  by_cases hs : s = []
  · rw [hs, read_blank rfl, entriesOf_nil]
    rfl
  · rw [entriesOf, bindings_eq hs, List.filterMap_cons]
    cases (Binding.read s).1.gives? <;> rfl

theorem entriesOf_blank (h : Text.trimStart s = []) : entriesOf s = [] := by
  rw [entriesOf_eq, read_blank h, entriesOf_nil]
  rfl

/-- White space at the start belongs to the first statement. -/
theorem entriesOf_append_blank (h : Text.trimStart s = []) (t : List Char) :
    entriesOf (s ++ t) = entriesOf t := by
  have htrim : Text.trimStart (s ++ t) = Text.trimStart t :=
    trimStart_blanks (by simpa using List.dropWhile_eq_nil_iff.mp h) t
  by_cases hblank : Text.trimStart t = []
  · rw [entriesOf_blank hblank, entriesOf_blank (htrim.trans hblank)]
  · have ht := read_eq hblank
    have hst := read_eq (htrim ▸ hblank)
    rw [htrim] at hst
    rw [entriesOf_eq (s ++ t), entriesOf_eq t, ht.1, ht.2, hst.1, hst.2]

theorem entriesOf_feed (t : List Char) : entriesOf ('\n' :: t) = entriesOf t :=
  entriesOf_append_blank (s := ['\n']) rfl t

/-- A statement that stands in front is read first, whatever comes behind. -/
theorem StandsIn.entriesOf_append (h : StandsIn front rest s) (hother : AtLineEnd other)
    (hopen : LeavesOpen rest other) :
    entriesOf (front ++ other) =
      (Binding.read s).1.gives?.toList ++ entriesOf (other.drop 1) := by
  obtain ⟨hentry, hbehind⟩ := h.settled other hother hopen
  rw [entriesOf_eq, hentry, hbehind]

theorem entriesOf_storingLine (hkey : IsKey key) (hvalue : IsBare value) (s : List Char) :
    entriesOf (storingLine key value ++ s) = (key, some value) :: entriesOf s := by
  rw [entriesOf_eq, read_storingLine hkey hvalue]
  rfl

/-- The texts of the statements make up the whole. -/
theorem flatMap_source (s : List Char) : (bindings s).flatMap Binding.source = s := by
  induction s using bindings.induct with
  | case1 => rw [bindings_nil]; rfl
  | case2 s hs ih => rw [bindings_eq hs, List.flatMap_cons, ih, source_append_read]

/-! ## Replacing the statements on a key -/

/-- The statements behind one may change as long as quotes that were left open still are. -/
theorem StandsIn.replace_behind (h : StandsIn front rest s)
    (hopen : LeavesOpen (Binding.read s).2 t) (hnil : (Binding.read s).2 = [] → t = []) :
    LeavesOpen s ((Binding.read s).1.source ++ t) ∧
      entriesOf ((Binding.read s).1.source ++ t) =
        (Binding.read s).1.gives?.toList ++ entriesOf t := by
  rw [h.left] at hopen hnil
  obtain ⟨hother, hopens, hdrop⟩ : AtLineEnd (rest.take 1 ++ t) ∧
      LeavesOpen rest (rest.take 1 ++ t) ∧ (rest.take 1 ++ t).drop 1 = t := by
    obtain rfl | ⟨behind, rfl⟩ := h.lineEnd
    · rw [hnil rfl]
      exact ⟨atLineEnd_nil, .refl [], rfl⟩
    · exact ⟨atLineEnd_feed t, hopen.feed, rfl⟩
  rw [h.source, List.append_assoc]
  have hentries := h.entriesOf_append hother hopens
  rw [hdrop] at hentries
  refine ⟨?_, hentries⟩
  have hleaves := hopens.append h.lineEnd hother front
  rwa [← h.text] at hleaves

/-- The text with another line in place of each statement on the key. -/
def replaced (key : String) (line s : List Char) : List Char :=
  (bindings s).flatMap fun binding =>
    if binding.isOn (.str (.whole key)) then line else binding.source

theorem replaced_nil (key : String) (line : List Char) : replaced key line [] = [] := by
  rw [replaced, bindings_nil]
  rfl

theorem isOn_iff {binding : Binding} :
    binding.isOn (.str (.whole key)) = true ↔ binding.name = some key := by
  unfold Binding.isOn
  cases binding.name with
  | none => simp [Json.same, Json.sameNumber, Json.asWhole?]
  | some name => simp [Json.same]

/-- What a statement gives is replaced when it is on the key. -/
theorem replaceAll_entry (binding : Binding) (key : String) (value : Option String) :
    Entries.replaceAll binding.gives?.toList key value =
      if binding.isOn (.str (.whole key)) then [(key, value)] else binding.gives?.toList := by
  by_cases hon : binding.isOn (.str (.whole key)) = true
  · rw [if_pos hon, Binding.gives?, isOn_iff.mp hon]
    simp [Entries.replaceAll]
  rw [if_neg hon, Binding.gives?]
  rw [isOn_iff] at hon
  cases hname : binding.name with
  | none => rfl
  | some name =>
    have hne : name ≠ key := fun heq => hon (hname.trans (congrArg some heq))
    simp [Entries.replaceAll, hne]

theorem isOn_blank (h : Text.trimStart s = []) :
    ¬ (Binding.read s).1.isOn (.str (.whole key)) = true := by
  rw [isOn_iff, read_blank h]
  simp

/-- The first statement, or the line in its place, and then the others. -/
theorem replaced_eq (key : String) (line : List Char) (hs : s ≠ []) :
    replaced key line s =
      (if (Binding.read s).1.isOn (.str (.whole key)) then line else (Binding.read s).1.source) ++
        replaced key line (Binding.read s).2 := by
  rw [replaced, bindings_eq hs, List.flatMap_cons]
  rfl

/-- Replacing the statements on a key replaces what they give and nothing else. -/
theorem replaced_spec (hkey : IsKey key) (hvalue : IsBare value) (s : List Char) :
    LeavesOpen s (replaced key (storingLine key value) s) ∧
      entriesOf (replaced key (storingLine key value) s) =
        Entries.replaceAll (entriesOf s) key (some value) := by
  -- quotes that were left open are carried along, as the statement in front is read again with
  -- the rewritten text behind it
  induction s using bindings.induct with
  | case1 =>
    rw [replaced_nil, entriesOf_nil]
    exact ⟨.refl [], rfl⟩
  | case2 s hs ih =>
    obtain ⟨hopen, hentries⟩ := ih
    rw [replaced_eq key _ hs]
    by_cases hblank : Text.trimStart s = []
    · rw [if_neg (isOn_blank hblank), read_blank hblank, replaced_nil, List.append_nil,
        entriesOf_blank hblank]
      exact ⟨.refl s, rfl⟩
    obtain ⟨front, rest, hstands⟩ := exists_standsIn hblank
    have hgiven := replaceAll_entry (Binding.read s).1 key (some value)
    rw [entriesOf_eq s, Entries.replaceAll_append, hgiven, ← hentries]
    by_cases hon : (Binding.read s).1.isOn (.str (.whole key)) = true
    · rw [if_pos hon, if_pos hon]
      refine ⟨?_, entriesOf_storingLine hkey hvalue _⟩
      rw [hstands.left] at hopen ⊢
      have hfront := hopen.replace_front hstands.lineEnd (unquoted_storingLine hkey hvalue) front
      rwa [← hstands.text] at hfront
    · rw [if_neg hon, if_neg hon]
      refine hstands.replace_behind hopen fun hnil => ?_
      rw [hnil, replaced_nil]

/-! ## Adding a line -/

/-- A text on lines of its own adds its statements to those in front. -/
theorem entriesOf_append_line (ht : Unquoted t) (s : List Char) :
    entriesOf (s ++ '\n' :: t) = entriesOf s ++ entriesOf t := by
  induction s using bindings.induct with
  | case1 => rw [List.nil_append, entriesOf_feed, entriesOf_nil, List.nil_append]
  | case2 s hs ih =>
    by_cases hblank : Text.trimStart s = []
    · have hfeed : Text.trimStart (s ++ ['\n']) = [] :=
        trimStart_blanks (by simpa using List.dropWhile_eq_nil_iff.mp hblank) ['\n']
      have hbehind := entriesOf_append_blank hfeed t
      rw [List.append_assoc] at hbehind
      rw [entriesOf_blank hblank]
      exact hbehind
    obtain ⟨front, rest, hstands⟩ := exists_standsIn hblank
    have hopen := ht.leavesOpen.append atLineEnd_nil (atLineEnd_feed t) rest
    rw [List.append_nil] at hopen
    have hother : AtLineEnd (rest ++ '\n' :: t) := by
      obtain rfl | ⟨behind, rfl⟩ := hstands.lineEnd
      · exact atLineEnd_feed t
      · exact atLineEnd_feed _
    have hread := hstands.entriesOf_append hother hopen
    rw [← List.append_assoc, ← hstands.text] at hread
    rw [hread, entriesOf_eq s, List.append_assoc, ← ih, hstands.left]
    obtain rfl | ⟨behind, rfl⟩ := hstands.lineEnd
    · exact congrArg _ (entriesOf_feed t).symm
    · rfl

/-- A text that ends its last line, or has none, can be added to. -/
theorem entriesOf_append_ended (ht : Unquoted t) (hends : s = [] ∨ endsLine s = true) :
    entriesOf (s ++ t) = entriesOf s ++ entriesOf t := by
  rcases hends with rfl | hends
  · rw [entriesOf_nil]
    rfl
  · obtain ⟨front, rfl⟩ : ∃ front, s = front ++ ['\n'] :=
      ⟨s.dropLast, (List.dropLast_append_getLast? '\n' (by simpa [endsLine] using hends)).symm⟩
    have hended := entriesOf_append_line ⟨fun _ _ => List.not_mem_nil, List.not_mem_nil⟩ front
    rw [entriesOf_nil, List.append_nil] at hended
    rw [List.append_assoc, hended]
    exact entriesOf_append_line ht front

/-! ## Storing a key -/

theorem any_isOn_iff (key : String) (s : List Char) :
    (bindings s).any (Binding.isOn (.str (.whole key))) = true ↔ key ∈ (entriesOf s).keys := by
  rw [List.any_eq_true]
  constructor
  · rintro ⟨binding, hmem, hon⟩
    refine List.mem_map.mpr ⟨(key, binding.value), ?_, rfl⟩
    refine List.mem_filterMap.mpr ⟨binding, hmem, ?_⟩
    rw [Binding.gives?, isOn_iff.mp hon]
    rfl
  · intro hkey
    obtain ⟨entry, hentry, hname⟩ := List.mem_map.mp hkey
    obtain ⟨binding, hmem, hgiven⟩ := List.mem_filterMap.mp hentry
    obtain ⟨name, hbinding, rfl⟩ := Option.map_eq_some_iff.mp hgiven
    exact ⟨binding, hmem, isOn_iff.mpr (hbinding.trans (congrArg some hname))⟩

/-- Where no statement is on the key, the text stays as it is. -/
theorem replaced_of_not_mem (h : key ∉ (entriesOf s).keys) (line : List Char) :
    replaced key line s = s := by
  rw [← any_isOn_iff, List.any_eq_true] at h
  have hsources : replaced key line s = (bindings s).flatMap Binding.source := by
    refine List.flatMap_congr fun binding hmem => ?_
    exact if_neg fun hon => h ⟨binding, hmem, hon⟩
  rw [hsources, flatMap_source]

theorem bindings_isEmpty (s : List Char) : (bindings s).isEmpty = s.isEmpty := by
  by_cases hs : s = []
  · rw [hs, bindings_nil]
    rfl
  · rw [bindings_eq hs]
    simpa using hs

/-- The text with a key stored: with the line in place of each statement on it, or behind. -/
theorem withKey_eq (key : String) (line s : List Char) :
    withKey (.str (.whole key)) line (bindings s) =
      if key ∈ (entriesOf s).keys then replaced key line s
      else if s = [] ∨ endsLine s = true then s ++ line
      else s ++ '\n' :: line := by
  have htext : ((bindings s).flatMap fun binding =>
      if binding.isOn (.str (.whole key)) then line else binding.source) = replaced key line s :=
    rfl
  unfold withKey
  simp only [htext, any_isOn_iff, bindings_isEmpty, Bool.or_eq_true, List.isEmpty_iff]
  by_cases hmem : key ∈ (entriesOf s).keys
  · rw [if_pos hmem, if_pos hmem]
  · rw [if_neg hmem, if_neg hmem, replaced_of_not_mem hmem]

/-- The text with a value stored under a key. -/
def stored (key value : String) (s : List Char) : List Char :=
  withKey (.str (.whole key)) (storingLine key value) (bindings s)

/-- Storing a key replaces what is on it, or adds an entry. -/
theorem entriesOf_stored (hkey : IsKey key) (hvalue : IsBare value) (s : List Char) :
    entriesOf (stored key value s) =
      if key ∈ (entriesOf s).keys then Entries.replaceAll (entriesOf s) key (some value)
      else entriesOf s ++ [(key, some value)] := by
  have hline : entriesOf (storingLine key value) = [(key, some value)] := by
    have hread := entriesOf_storingLine hkey hvalue []
    rwa [List.append_nil, entriesOf_nil] at hread
  have hquotes := unquoted_storingLine hkey hvalue
  rw [stored, withKey_eq]
  split
  · exact (replaced_spec hkey hvalue s).2
  · split
    · rw [entriesOf_append_ended hquotes ‹_›, hline]
    · rw [entriesOf_append_line hquotes, hline]

/-- The last entry on each key is as before, but for the key that was stored. -/
theorem get?_reverse_stored (hkey : IsKey key) (hvalue : IsBare value) (s : List Char)
    (other : String) : Entries.get? (entriesOf (stored key value s)).reverse other =
      if key = other then some (some value) else Entries.get? (entriesOf s).reverse other := by
  rw [entriesOf_stored hkey hvalue]
  split
  · rename_i hmem
    have hreverse : key ∈ Entries.keys (entriesOf s).reverse := by
      rw [Entries.keys, List.map_reverse]
      exact List.mem_reverse.mpr hmem
    obtain ⟨found, hfound⟩ := Entries.get?_of_mem_keys hreverse
    rw [Entries.reverse_replaceAll, Entries.get?_replaceAll]
    split
    · rename_i heq
      rw [← heq, hfound]
      rfl
    · rfl
  · rw [List.reverse_append, Entries.get?_append, List.reverse_singleton, Entries.get?_cons]
    split <;> rfl

/-! ## What else the stored text holds -/

theorem mem_replaced {line : List Char} {c : Char} (h : c ∈ replaced key line s) :
    c ∈ s ∨ c ∈ line := by
  obtain ⟨binding, hmem, hc⟩ := List.mem_flatMap.mp h
  split at hc
  · exact .inr hc
  · left
    rw [← flatMap_source s]
    exact List.mem_flatMap.mpr ⟨binding, hmem, hc⟩

theorem mem_stored {c : Char} (h : c ∈ stored key value s) :
    c ∈ s ∨ c ∈ storingLine key value := by
  have hfeed : '\n' ∈ storingLine key value := by
    simp [storingLine]
  rw [stored, withKey_eq] at h
  split at h
  · exact mem_replaced h
  · split at h
    · exact List.mem_append.mp h
    · refine (List.mem_append.mp h).imp_right fun hbehind => ?_
      rcases List.mem_cons.mp hbehind with rfl | hline
      · exact hfeed
      · exact hline

theorem source_ne_nil (hs : s ≠ []) : (Binding.read s).1.source ≠ [] := by
  intro hnil
  have hwhole := source_append_read s
  have hlength := Binding.length_read_lt hs
  rw [hnil, List.nil_append] at hwhole
  rw [hwhole] at hlength
  exact Nat.lt_irrefl _ hlength

/-- A statement begins where another began, or the line does. -/
theorem head?_replaced {line : List Char} (hline : line ≠ []) :
    (replaced key line s).head? = s.head? ∨ (replaced key line s).head? = line.head? := by
  by_cases hs : s = []
  · rw [hs, replaced_nil]
    exact .inl rfl
  rw [replaced_eq key line hs]
  split
  · exact .inr (List.head?_append_of_ne_nil _ hline)
  · left
    have hwhole := congrArg List.head? (source_append_read s)
    rw [List.head?_append_of_ne_nil _ (source_ne_nil hs)] at hwhole ⊢
    exact hwhole

theorem head?_stored (s : List Char) (key value : String) :
    (stored key value s).head? = s.head? ∨
      (stored key value s).head? = (storingLine key value).head? := by
  rw [stored, withKey_eq]
  split
  · exact head?_replaced (by simp [storingLine])
  · split
    · by_cases hs : s = []
      · rw [hs]
        exact .inr rfl
      · exact .inl (List.head?_append_of_ne_nil _ hs)
    · rename_i hends
      exact .inl (List.head?_append_of_ne_nil _ fun hs => hends (.inl hs))

end CommitStyle.KeyFile
