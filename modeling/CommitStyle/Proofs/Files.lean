import CommitStyle.Files.Basic
import CommitStyle.Proofs.Entries
import CommitStyle.Proofs.Success

/-! A text that was written to a file is read back from the same path, with its line ends
unified. Writing leads no path astray: the directories on the way to the file are
still directories once it is there. -/

namespace CommitStyle.Files

variable {files : Files} {place : List String}

/-- A path that can be written to: it leads to a place where no directory stands. -/
def IsWritable (files : Files) (path : String) : Prop :=
  ∃ place, files.place path = .ok place ∧ files.at? place ≠ some .directory

/-! ## What stands at a place -/

/-- Only the name of a place counts, unless it is the working directory. -/
theorem at?_congr {other : List String} (hplace : place ≠ []) (hother : other ≠ [])
    (h : placeName place = placeName other) : files.at? place = files.at? other := by
  have hempty : place.isEmpty = false ∧ other.isEmpty = false := by simp [hplace, hother]
  rw [at?, at?, hasBelow, hasBelow, hempty.1, hempty.2, h]

theorem ne_nil_of_not_directory (h : files.at? place ≠ some .directory) : place ≠ [] := by
  rintro rfl
  exact h rfl

theorem hasBelow_insert (h : files.hasBelow place = true) (name : String) (node : Node) :
    hasBelow (files.insert name node) place = true := by
  obtain ⟨entry, hmem, hbelow⟩ := List.any_eq_true.mp h
  obtain ⟨other, hother, heq⟩ :=
    List.mem_map.mp (Entries.mem_keys_insert (List.mem_map_of_mem hmem) name node)
  exact List.any_eq_true.mpr ⟨other, hother, heq ▸ hbelow⟩

/-- What was put at a place stands there. -/
theorem at?_insert (hplace : place ≠ []) (node : Node) :
    at? (files.insert (placeName place) node) place = some node := by
  simp [at?, hplace, Entries.get?_insert]

/-- A directory is still one after something was put where no directory stands. -/
theorem directory_insert {other : List String} (hplace : files.at? place ≠ some .directory)
    (hother : files.at? other = some .directory) (node : Node) :
    at? (files.insert (placeName place) node) other = some .directory := by
  by_cases hroot : other = []
  · rw [hroot]
    rfl
  have hname : placeName place ≠ placeName other := fun heq =>
    hplace (at?_congr (ne_nil_of_not_directory hplace) hroot heq ▸ hother)
  have hempty : other.isEmpty = false := by simpa using hroot
  rw [at?, hempty, if_neg (by simp)] at hother ⊢
  rw [Entries.get?_insert, if_neg hname]
  split at hother
  · exact hother
  · split at hother
    · rw [if_pos (hasBelow_insert ‹_› _ _)]
    · cases hother

/-! ## Where a path leads -/

/-- A path that led to the place leads there still. -/
theorem follow_insert (hplace : files.at? place ≠ some .directory) (node : Node)
    {start pieces : List String} (h : files.follow start pieces = .ok place) :
    follow (files.insert (placeName place) node) start pieces = .ok place := by
  -- only directories are gone through, and what is put in stands at none of them
  induction pieces generalizing start with
  | nil => exact h
  | cons piece rest ih =>
    rw [follow] at h ⊢
    by_cases hidle : Path.isIdle piece = true
    · rw [if_pos hidle] at h ⊢
      exact ih h
    rw [if_neg hidle] at h ⊢
    by_cases hup : (piece == "..") = true
    · rw [if_pos hup] at h ⊢
      by_cases htop : start.isEmpty = true
      · rw [if_pos htop] at h
        cases h
      · rw [if_neg htop] at h ⊢
        exact ih h
    rw [if_neg hup] at h ⊢
    dsimp only at h ⊢
    by_cases hlast : rest.isEmpty = true
    · rw [if_pos hlast] at h ⊢
      exact h
    rw [if_neg hlast] at h ⊢
    split at h
    · cases h
    · rename_i hdirectory
      rw [directory_insert hplace hdirectory]
      exact ih h
    · cases h

theorem place_insert (hplace : files.at? place ≠ some .directory) (node : Node) {path : String}
    (h : files.place path = .ok place) :
    Files.place (files.insert (placeName place) node) path = .ok place := by
  unfold Files.place at h ⊢
  by_cases habsolute : Path.isAbsolute path = true
  · rw [if_pos habsolute] at h
    cases h
  · rw [if_neg habsolute] at h ⊢
    exact follow_insert hplace node h

/-! ## Writing and reading -/

theorem write_eq_ok {path content : String} {written : Files} :
    files.write path content = .ok written ↔ ∃ place, files.place path = .ok place ∧
      files.at? place ≠ some .directory ∧
      written = files.insert (placeName place) (.text content) := by
  unfold write
  rw [Success.bind_eq_ok]
  constructor
  · rintro ⟨place, hplace, h⟩
    refine ⟨place, Success.mapError_eq_ok.mp hplace, ?_⟩
    split at h
    · cases h
    · cases h
      exact ⟨‹_›, rfl⟩
  · rintro ⟨place, hplace, hfile, rfl⟩
    refine ⟨place, Success.mapError_eq_ok.mpr hplace, ?_⟩
    split
    · exact absurd ‹_› hfile
    · rfl

/-- What is read stands at the path, and is no directory. -/
theorem find_of_read {path text : String} (h : files.read path = .ok text) :
    ∃ node, files.find path = .ok node ∧ node ≠ .directory := by
  unfold read at h
  split at h
  · exact ⟨.text _, ‹_›, nofun⟩
  · exact ⟨.bytes _, ‹_›, nofun⟩
  · cases h
  · cases h

theorem isThere_of_read {path text : String} (h : files.read path = .ok text) :
    files.isThere path = true := by
  obtain ⟨node, hfind, -⟩ := find_of_read h
  rw [isThere, hfind]
  rfl

/-- The line ends of a text that is read are unified. -/
theorem unified_of_read {path text : String} (h : files.read path = .ok text) :
    ∃ content : String, text = String.ofList (Text.unifyLineEnds content.toList) := by
  unfold read at h
  split at h
  · cases h
    exact ⟨_, rfl⟩
  · obtain ⟨content, -, hunified⟩ := Success.bind_eq_ok.mp h
    cases hunified
    exact ⟨content, rfl⟩
  · cases h
  · cases h

/-- A path that was read from can be written to. -/
theorem IsWritable.of_read {path text : String} (h : files.read path = .ok text) :
    files.IsWritable path := by
  obtain ⟨node, hfind, hnode⟩ := find_of_read h
  obtain ⟨place, hplace, hfound⟩ := Success.bind_eq_ok.mp hfind
  refine ⟨place, hplace, ?_⟩
  split at hfound
  · rename_i hat
    cases hfound
    rw [hat]
    simpa using hnode
  · cases hfound

/-- A text is written wherever the path allows it. -/
theorem IsWritable.write {path : String} (h : files.IsWritable path) (content : String) :
    ∃ written, files.write path content = .ok written := by
  obtain ⟨place, hplace, hfile⟩ := h
  exact ⟨_, write_eq_ok.mpr ⟨place, hplace, hfile, rfl⟩⟩

/-- A text that was written to a path is found there. -/
theorem find_written {path content : String} {written : Files}
    (h : files.write path content = .ok written) : written.find path = .ok (.text content) := by
  obtain ⟨place, hplace, hfile, rfl⟩ := write_eq_ok.mp h
  rw [find, place_insert hfile _ hplace]
  simp only [bind, Except.bind, at?_insert (ne_nil_of_not_directory hfile)]
  rfl

/-- A text that was written to a path is read from it. -/
theorem read_written {path content : String} {written : Files}
    (h : files.write path content = .ok written) :
    written.read path = .ok (String.ofList (Text.unifyLineEnds content.toList)) := by
  rw [read, find_written h]
  rfl

end CommitStyle.Files
