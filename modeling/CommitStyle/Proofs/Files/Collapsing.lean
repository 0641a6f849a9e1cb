import CommitStyle.Proofs.Files.Apart

/-! Collapsing a path leaves it leading where it led: idle parts are passed over on the way,
and a path that has no others leads to the working directory. -/

namespace CommitStyle

namespace Path

variable {path : String}

theorem not_slash_of_mem_parts {part : String} (h : part ∈ parts path) : '/' ∉ part.toList :=
  Files.parted_pieces path part (List.mem_of_mem_filter h)

theorem not_idle_of_mem_parts {part : String} (h : part ∈ parts path) : isIdle part = false := by
  simpa using List.of_mem_filter h

/-- An absolute path begins with an empty piece. -/
theorem pieces_of_absolute (h : isAbsolute path = true) : ∃ rest, pieces path = "" :: rest := by
  unfold isAbsolute at h
  unfold pieces
  cases hpath : path.toList with
  | nil =>
    rw [hpath] at h
    cases h
  | cons c rest =>
    rw [hpath] at h
    obtain rfl : c = '/' := by simpa using h
    exact ⟨_, rfl⟩

theorem anchor_of_relative (h : isAbsolute path = false) : anchor path = "" := by
  unfold isAbsolute at h
  unfold anchor
  split
  · simp_all
  · simp_all
  · simp_all
  · rfl

/-- The pieces of a collapsed path are the parts of the path that lead somewhere. -/
theorem pieces_collapse (h : isAbsolute path = false) :
    pieces (collapse path) = if parts path = [] then ["."] else parts path := by
  have hlist : ("/".intercalate (parts path)).toList =
      Text.joinPieces '/' ((parts path).map String.toList) := Files.toList_placeName (parts path)
  unfold collapse
  rw [anchor_of_relative h, String.empty_append]
  by_cases hnone : parts path = []
  · rw [if_pos hnone, hnone]
    rfl
  have hjoined : Text.pieces '/' ("/".intercalate (parts path)).toList =
      (parts path).map String.toList := by
    rw [hlist]
    refine Text.pieces_joinPieces (by simpa using hnone) fun piece hpiece => ?_
    obtain ⟨part, hpart, rfl⟩ := List.mem_map.mp hpiece
    exact not_slash_of_mem_parts hpart
  have hempty : ("/".intercalate (parts path)).isEmpty = false := by
    rw [← Bool.not_eq_true, String.isEmpty_iff]
    intro hempty
    rw [hempty] at hjoined
    obtain ⟨part, hpart⟩ := List.exists_mem_of_ne_nil _ hnone
    have hmem : part.toList ∈ Text.pieces '/' "".toList := hjoined ▸ List.mem_map_of_mem hpart
    have hpartEmpty : part = "" := by simpa [Text.pieces] using hmem
    have hidle := not_idle_of_mem_parts hpart
    rw [hpartEmpty] at hidle
    cases hidle
  rw [if_neg hnone]
  simp only [hempty, Bool.false_eq_true, if_false, pieces, hjoined]
  simp

theorem isAbsolute_collapse (h : isAbsolute path = false) :
    isAbsolute (collapse path) = false := by
  rw [← Bool.not_eq_true]
  intro habsolute
  obtain ⟨rest, hrest⟩ := pieces_of_absolute habsolute
  rw [pieces_collapse h] at hrest
  split at hrest
  · simp at hrest
  · have hidle := not_idle_of_mem_parts (hrest ▸ List.mem_cons_self)
    cases hidle

end Path

namespace Files

variable {files : Files} {place : List String} {path : String}

/-- Idle parts can be left out on the way to a place. -/
theorem follow_active {start pieces : List String} (h : files.follow start pieces = .ok place) :
    files.follow start (pieces.filter (!Path.isIdle ·)) = .ok place := by
  induction pieces generalizing start with
  | nil => exact h
  | cons piece rest ih =>
    rw [follow] at h
    by_cases hidle : Path.isIdle piece = true
    · rw [if_pos hidle] at h
      rw [List.filter_cons_of_neg (by simp [hidle])]
      exact ih h
    rw [if_neg hidle] at h
    rw [List.filter_cons_of_pos (by simp [hidle]), follow, if_neg hidle]
    by_cases hup : (piece == "..") = true
    · rw [if_pos hup] at h ⊢
      by_cases htop : start.isEmpty = true
      · rw [if_pos htop] at h
        cases h
      · rw [if_neg htop] at h ⊢
        exact ih h
    rw [if_neg hup] at h ⊢
    dsimp only at h ⊢
    by_cases hlast : rest.isEmpty = true
    · rw [if_pos hlast] at h
      rw [List.isEmpty_iff.mp hlast]
      exact h
    rw [if_neg hlast] at h
    split at h
    · cases h
    · -- what comes behind a directory may be idle, and then the directory is the last part
      have hrest := ih h
      by_cases hactive : (rest.filter (!Path.isIdle ·)).isEmpty = true
      · rw [if_pos hactive]
        rwa [List.isEmpty_iff.mp hactive] at hrest
      · rw [if_neg hactive]
        exact hrest
    · cases h

theorem place_collapse (h : files.place path = .ok place) :
    files.place (Path.collapse path) = .ok place := by
  unfold Files.place at h ⊢
  by_cases habsolute : Path.isAbsolute path = true
  · rw [if_pos habsolute] at h
    cases h
  rw [if_neg habsolute] at h
  have hrelative : Path.isAbsolute path = false := by simpa using habsolute
  rw [Path.isAbsolute_collapse hrelative, if_neg (by simp), Path.pieces_collapse hrelative]
  have hactive := follow_active h
  split
  · rename_i hnone
    rwa [show (Path.pieces path).filter (!Path.isIdle ·) = [] from hnone] at hactive
  · exact hactive

/-! ## Files at collapsed paths -/

/-- What a path leads to is found from the place alone. -/
theorem find_eq (h : files.place path = .ok place) :
    files.find path = match files.at? place with
      | some node => .ok node
      | none => .error .missing := by
  rw [find, h]
  rfl

theorem IsWritable.find_collapse (h : files.IsWritable path) :
    files.find (Path.collapse path) = files.find path := by
  obtain ⟨place, hplace, -⟩ := h
  rw [find_eq hplace, find_eq (place_collapse hplace)]

theorem IsWritable.isThere_collapse (h : files.IsWritable path) :
    files.isThere (Path.collapse path) = files.isThere path := by
  rw [isThere, h.find_collapse, isThere]

theorem read_collapse {text : String} (h : files.read path = .ok text) :
    files.read (Path.collapse path) = .ok text := by
  have hfind := (IsWritable.of_read h).find_collapse
  obtain ⟨node, hnode, hfile⟩ := find_of_read h
  unfold read at h ⊢
  rw [hfind]
  rw [hnode] at h ⊢
  cases node with
  | text content => exact h
  | bytes content => exact h
  | directory => exact absurd rfl hfile

theorem isFile_of_read {text : String} (h : files.read path = .ok text) :
    files.isFile path = true := by
  obtain ⟨node, hnode, hfile⟩ := find_of_read h
  rw [isFile, hnode]
  cases node with
  | text content => rfl
  | bytes content => rfl
  | directory => exact absurd rfl hfile

/-- What is written to the collapsed path is read from the path itself. -/
theorem write_collapse {text : String} (h : files.read path = .ok text) (content : String) :
    ∃ written, files.write (Path.collapse path) content = .ok written ∧
      written.read path = .ok (String.ofList (Text.unifyLineEnds content.toList)) := by
  obtain ⟨place, hplace, hfile⟩ := IsWritable.of_read h
  refine ⟨_, write_eq_ok.mpr ⟨place, place_collapse hplace, hfile, rfl⟩, ?_⟩
  rw [read, find_eq (place_insert hfile _ hplace), at?_insert (ne_nil_of_not_directory hfile)]
  rfl

/-- Touching a file leaves it as it is. -/
theorem touch_of_read {text : String} (h : files.read path = .ok text) :
    files.touch path = .ok files := by
  obtain ⟨node, hfind, -⟩ := find_of_read h
  obtain ⟨place, hplace, hfound⟩ := Success.bind_eq_ok.mp hfind
  rw [touch, hplace]
  split at hfound
  · rename_i hat
    simp only [Except.mapError, bind, Except.bind, hat]
    rfl
  · cases hfound

/-- Touching makes an empty file where there is none. -/
theorem touch_of_absent (hwritable : files.IsWritable path) (h : files.isThere path = false) :
    ∃ touched, files.touch (Path.collapse path) = .ok touched ∧ touched.read path = .ok "" := by
  obtain ⟨place, hplace, hfile⟩ := hwritable
  rw [isThere, find_eq hplace] at h
  cases hat : files.at? place with
  | some node =>
    rw [hat] at h
    cases h
  | none =>
    refine ⟨files.insert (placeName place) (.text ""), ?_, ?_⟩
    · rw [touch, place_collapse hplace]
      simp only [Except.mapError, bind, Except.bind, hat]
      rfl
    · rw [read, find_eq (place_insert hfile _ hplace), at?_insert (ne_nil_of_not_directory hfile)]
      rfl

end Files

end CommitStyle
