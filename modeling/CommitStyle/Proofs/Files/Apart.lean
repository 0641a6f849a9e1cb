import CommitStyle.Proofs.Files
import CommitStyle.Proofs.Text.Pieces

/-! Writing one file leaves the others alone. On the way to a place there are only
directories, so a file that is put there makes no new directory: every path leads
where it led before, and all but the paths to that file lead to what they led to. -/

namespace CommitStyle.Files

variable {files : Files} {place other : List String} {node : Node}

/-! ## Names of places -/

/-- No part of the place has a slash in it. -/
def Parted (place : List String) : Prop := ∀ part ∈ place, '/' ∉ part.toList

theorem parted_pieces (path : String) : Parted (Path.pieces path) := by
  intro part hpart
  obtain ⟨piece, hpiece, rfl⟩ := List.mem_map.mp hpart
  rw [String.toList_ofList]
  exact Text.not_mem_of_mem_pieces hpiece

theorem toList_placeName (place : List String) :
    (placeName place).toList = ['/'].intercalate (place.map String.toList) := by
  rw [placeName, String.toList_intercalate]
  rfl

/-- The parts of a place can be read off its name. -/
theorem splitOn_placeName (hparted : Parted place) (hplace : place ≠ []) :
    (placeName place).toList.splitOn '/' = place.map String.toList := by
  rw [toList_placeName]
  refine List.splitOn_intercalate '/' (fun piece hpiece => ?_) (by simpa using hplace)
  obtain ⟨part, hpart, rfl⟩ := List.mem_map.mp hpiece
  exact hparted part hpart

theorem map_toList_inj {parts others : List String}
    (h : parts.map String.toList = others.map String.toList) : parts = others :=
  List.map_injective_iff.mpr (fun _ _ => String.toList_inj.mp) h

theorem eq_of_placeName (hparted : Parted place) (hplace : place ≠ []) (hother : Parted other)
    (hne : other ≠ []) (h : placeName place = placeName other) : place = other := by
  have hparts := splitOn_placeName hparted hplace
  rw [h, splitOn_placeName hother hne] at hparts
  exact map_toList_inj hparts.symm

/-- What stands below another place by its name is below it by its parts. -/
theorem prefix_of_placeName (hparted : Parted place) (hplace : place ≠ []) (hother : Parted other)
    (hne : other ≠ []) (h : (placeName other ++ "/").isPrefixOf (placeName place) = true) :
    other <+: place.dropLast := by
  have hbelow : (placeName other ++ "/").toList <+: (placeName place).toList := by
    simpa [String.isPrefixOf] using h
  obtain ⟨rest, hrest⟩ := hbelow
  have hsplit : (placeName place).toList.splitOn '/' =
      (placeName other).toList.splitOn '/' ++ rest.splitOn '/' := by
    rw [← hrest, ← List.splitOn_append_cons_self]
    simp
  rw [splitOn_placeName hparted hplace, splitOn_placeName hother hne] at hsplit
  obtain ⟨front, more, rfl, hfront, hmore⟩ := List.map_eq_append_iff.mp hsplit
  obtain rfl := map_toList_inj hfront
  have hmore : more ≠ [] := by
    rintro rfl
    exact List.splitOn_ne_nil _ _ hmore.symm
  rw [List.dropLast_append_of_ne_nil hmore]
  exact List.prefix_append _ _

/-! ## Places that paths lead to -/

/-- The place and all above it are directories. -/
def Open (files : Files) (place : List String) : Prop :=
  ∀ front, front <+: place → files.at? front = some .directory

theorem Open.dropLast (h : Open files place) : Open files place.dropLast :=
  fun front hfront => h front (hfront.trans (List.dropLast_prefix place))

theorem Open.concat (h : Open files place) {part : String}
    (hpart : files.at? (place ++ [part]) = some .directory) : Open files (place ++ [part]) := by
  intro front hfront
  rcases List.prefix_concat_iff.mp hfront with rfl | hfront
  · exact hpart
  · exact h front hfront

/-- A place that can be named: its parts have no slash, and what is above it is a directory. -/
structure Reached (files : Files) (place : List String) : Prop where
  parted : Parted place
  above : Open files place.dropLast

theorem reached_of_follow {start pieces : List String} (hstart : Parted start)
    (hopen : Open files start) (hpieces : Parted pieces)
    (h : files.follow start pieces = .ok place) : Reached files place := by
  induction pieces generalizing start with
  | nil =>
    cases h
    exact ⟨hstart, hopen.dropLast⟩
  | cons piece rest ih =>
    obtain ⟨hpiece, hrest⟩ := List.forall_mem_cons.mp hpieces
    rw [follow] at h
    split at h
    · exact ih hstart hopen hrest h
    split at h
    · split at h
      · cases h
      · exact ih (fun part hpart => hstart part (List.dropLast_subset _ hpart)) hopen.dropLast
          hrest h
    have hnext : Parted (start ++ [piece]) := by
      simpa [Parted, or_imp, forall_and] using ⟨hstart, hpiece⟩
    dsimp only at h
    split at h
    · cases h
      exact ⟨hnext, by simpa using hopen⟩
    · split at h
      · cases h
      · exact ih hnext (hopen.concat ‹_›) hrest h
      · cases h

theorem reached_of_place {path : String} (h : files.place path = .ok place) :
    Reached files place := by
  unfold Files.place at h
  split at h
  · cases h
  · refine reached_of_follow (by simp [Parted]) (fun front hfront => ?_) (parted_pieces path) h
    obtain rfl := List.prefix_nil.mp hfront
    rfl

/-! ## Putting in a file -/

theorem hasBelow_insert_iff {entries : Files} {name : String} :
    hasBelow (entries.insert name node) other = true ↔
      entries.hasBelow other = true ∨ (placeName other ++ "/").isPrefixOf name = true := by
  induction entries with
  | nil => simp [Entries.insert, hasBelow]
  | cons entry rest ih =>
    rw [Entries.insert]
    split
    · rename_i hname
      have hname : entry.1 = name := beq_iff_eq.mp hname
      subst hname
      simp only [hasBelow, List.any_cons, Bool.or_eq_true]
      tauto
    · simp only [hasBelow, List.any_cons, Bool.or_eq_true] at ih ⊢
      rw [ih]
      tauto

/-- At all other places there stands what stood there. -/
theorem at?_insert_other (hplace : Reached files place) (hfile : files.at? place ≠ some .directory)
    (hother : Parted other) (hne : other ≠ place) (node : Node) :
    at? (files.insert (placeName place) node) other = files.at? other := by
  by_cases hroot : other = []
  · rw [hroot]
    rfl
  have hsome := ne_nil_of_not_directory hfile
  have hname : placeName place ≠ placeName other := fun heq =>
    hne (eq_of_placeName hplace.parted hsome hother hroot heq).symm
  by_cases hdirectory : files.at? other = some .directory
  · rw [hdirectory, directory_insert hfile hdirectory]
  -- what is no directory is not above the place, so nothing comes to stand below it
  have hbelow : hasBelow (files.insert (placeName place) node) other = files.hasBelow other := by
    rw [Bool.eq_iff_iff, hasBelow_insert_iff]
    refine or_iff_left fun habove => hdirectory ?_
    exact hplace.above other (prefix_of_placeName hplace.parted hsome hother hroot habove)
  rw [at?, at?, Entries.get?_insert, if_neg hname, hbelow]

/-- Every path leads where it led. -/
theorem toOption_follow_insert (hplace : Reached files place)
    (hfile : files.at? place ≠ some .directory) (hnode : node ≠ .directory)
    {start pieces : List String} (hstart : Parted start) (hpieces : Parted pieces) :
    (follow (files.insert (placeName place) node) start pieces).toOption =
      (files.follow start pieces).toOption := by
  induction pieces generalizing start with
  | nil => rfl
  | cons piece rest ih =>
    obtain ⟨hpiece, hrest⟩ := List.forall_mem_cons.mp hpieces
    rw [follow, follow]
    split
    · exact ih hstart hrest
    split
    · split
      · rfl
      · exact ih (fun part hpart => hstart part (List.dropLast_subset _ hpart)) hrest
    have hnext : Parted (start ++ [piece]) := by
      simpa [Parted, or_imp, forall_and] using ⟨hstart, hpiece⟩
    dsimp only
    split
    · rfl
    by_cases hsame : start ++ [piece] = place
    · -- neither before nor after is there a directory to go through
      rw [hsame, at?_insert (ne_nil_of_not_directory hfile)]
      cases node with
      | directory => exact absurd rfl hnode
      | text _ | bytes _ =>
        dsimp only
        split
        · rfl
        · exact absurd ‹_› hfile
        · rfl
    · rw [at?_insert_other hplace hfile hnext hsame]
      split
      · rfl
      · exact ih hnext hrest
      · rfl

theorem toOption_place_insert (hplace : Reached files place)
    (hfile : files.at? place ≠ some .directory) (hnode : node ≠ .directory) (path : String) :
    (Files.place (files.insert (placeName place) node) path).toOption =
      (files.place path).toOption := by
  unfold Files.place
  split
  · rfl
  · exact toOption_follow_insert hplace hfile hnode (by simp [Parted]) (parted_pieces path)

theorem toOption_find (files : Files) (path : String) :
    (files.find path).toOption = (files.place path).toOption.bind files.at? := by
  unfold find
  cases files.place path with
  | error fault => rfl
  | ok place =>
    cases hnode : files.at? place <;>
      simp [bind, Except.bind, Except.toOption, hnode, pure, Except.pure]

/-! ## Files that stay -/

/-- The paths do not lead to one place. -/
def Apart (files : Files) (path other : String) : Prop :=
  ∀ place, files.place path = .ok place → files.place other ≠ .ok place

/-- Every path leads where it led, and this one to what it led to. -/
structure Keeps (path : String) (before after : Files) : Prop where
  places : ∀ other, (after.place other).toOption = (before.place other).toOption
  found : (after.find path).toOption = (before.find path).toOption

namespace Keeps

variable {path : String} {before middle after : Files}

theorem refl (files : Files) : Keeps path files files := ⟨fun _ => rfl, rfl⟩

theorem trans (h : Keeps path before middle) (h' : Keeps path middle after) :
    Keeps path before after :=
  ⟨fun other => (h'.places other).trans (h.places other), h'.found.trans h.found⟩

theorem place_eq_ok (h : Keeps path before after) {other : String} :
    after.place other = .ok place ↔ before.place other = .ok place := by
  have hplaces := h.places other
  cases hafter : after.place other <;> cases hbefore : before.place other <;>
    simp_all [Except.toOption]

theorem apart (h : Keeps path before after) {first second : String}
    (hapart : Apart before first second) : Apart after first second := by
  intro place hfirst hsecond
  exact hapart place (h.place_eq_ok.mp hfirst) (h.place_eq_ok.mp hsecond)

theorem insert {other : String} (hplace : before.place other = .ok place)
    (hfile : before.at? place ≠ some .directory) (hnode : node ≠ .directory)
    (hapart : Apart before path other) :
    Keeps path before (Entries.insert before (placeName place) node) := by
  have hreached := reached_of_place hplace
  have hplaces := toOption_place_insert hreached hfile hnode
  refine ⟨hplaces, ?_⟩
  rw [toOption_find, toOption_find, hplaces]
  cases hpath : before.place path with
  | error fault => rfl
  | ok own =>
    have hne : own ≠ place := fun heq => hapart place (heq ▸ hpath) hplace
    exact at?_insert_other hreached hfile (reached_of_place hpath).parted hne node

/-- Writing to a path that leads elsewhere. -/
theorem write {other content : String} (h : before.write other content = .ok after)
    (hapart : Apart before path other) : Keeps path before after := by
  obtain ⟨place, hplace, hfile, rfl⟩ := write_eq_ok.mp h
  exact insert hplace hfile (by simp) hapart

/-- Making an empty file at a path that leads elsewhere. -/
theorem touch {other : String} (h : before.touch other = .ok after)
    (hapart : Apart before path other) : Keeps path before after := by
  obtain ⟨place, hplace, h⟩ := Success.bind_eq_ok.mp h
  split at h
  · cases h
    exact refl _
  · rename_i hnone
    cases h
    refine insert (Success.mapError_eq_ok.mp hplace) ?_ (by simp) hapart
    rw [hnone]
    simp

end Keeps

end CommitStyle.Files
