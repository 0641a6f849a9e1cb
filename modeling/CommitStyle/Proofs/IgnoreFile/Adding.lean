import CommitStyle.IgnoreFile
import CommitStyle.Proofs.Files
import CommitStyle.Proofs.Session.Running
import CommitStyle.Proofs.Text.Lines
import CommitStyle.Proofs.Text.Trimming

/-! Adding a path to the list of ignored paths. The path becomes the last line of the list,
whatever stood there and however its lines ended, so that the list has just that path
more; no earlier line is joined to it, and none is lost. -/

namespace CommitStyle.IgnoreFile

open CommitStyle.Flow

/-- A path that can be told from the other lines: it is one line, no blank one and no comment, and
trimming leaves it alone. -/
structure Listable (path : String) : Prop where
  ne_empty : plain path ≠ ""
  trimmed : Text.strip (plain path) = plain path
  noComment : (plain path).toList.head? ≠ some '#'
  oneLine : ∀ c ∈ (plain path).toList, Text.isLineEnd c = false

/-- The text of a list. One that is still to be made has none. -/
inductive HasText (files : Files) (file : String) : String → Prop
  | written {text : String} (hread : files.read file = .ok text) : HasText files file text
  | absent (hnone : files.isThere file = false) (hplace : files.IsWritable file) :
      HasText files file ""

/-- The lines that are not blank. -/
def entries (text : String) : List (List Char) :=
  (Text.lines text.toList).filter fun line => !line.all Text.isBlank

variable {path other text directory : String} {before : Session}

/-! ## The text with a line more -/

theorem Listable.toList_ne_nil (h : Listable path) : (plain path).toList ≠ [] :=
  fun hnil => h.ne_empty (String.toList_eq_nil_iff.mp hnil)

theorem Listable.trim (h : Listable path) : Text.trim (plain path).toList = (plain path).toList :=
  Text.trim_of_trimmed (Text.strip_eq_self.mp h.trimmed)

theorem toList_withPath (text path : String) :
    ((withPath text path).toList = text.toList ++ ((plain path).toList ++ ['\n']) ∧
      ∀ c ∈ text.toList.getLast?, c = '\n') ∨
    (withPath text path).toList = (text.toList ++ ['\n']) ++ ((plain path).toList ++ ['\n']) := by
  unfold withPath
  by_cases hends : (text.isEmpty || text.toList.getLast? == some '\n') = true
  · rw [if_pos hends]
    refine .inl ⟨by simp, fun c hc => ?_⟩
    simp only [Bool.or_eq_true, String.isEmpty_iff, beq_iff_eq] at hends
    rcases hends with rfl | hlast
    · cases hc
    · rw [hlast] at hc
      exact (Option.some.inj hc).symm
  · rw [if_neg hends]
    exact .inr (by simp)

theorem noReturn_withPath (hpath : Listable path) (htext : '\r' ∉ text.toList) :
    '\r' ∉ (withPath text path).toList := by
  have hreturn : '\r' ∉ (plain path).toList := fun hmem => by
    simpa [Text.isLineEnd] using hpath.oneLine _ hmem
  rcases toList_withPath text path with ⟨hwith, -⟩ | hwith
  · simp [hwith, htext, hreturn]
  · simp [hwith, htext, hreturn]

/-- The added path is the last line, behind a blank one at most. -/
theorem lines_withPath (hpath : Listable path) (htext : '\r' ∉ text.toList) :
    ∃ opened, (opened = [] ∨ opened = [[]]) ∧ Text.lines (withPath text path).toList =
      Text.lines text.toList ++ opened ++ [(plain path).toList] := by
  have hfeed : Text.isLineEnd '\n' = true := rfl
  rw [Text.lines_of_unified htext, Text.lines_of_unified (noReturn_withPath hpath htext)]
  rcases toList_withPath text path with ⟨hwith, hends⟩ | hwith
  · refine ⟨[], .inl rfl, ?_⟩
    rw [hwith, List.append_nil]
    exact Text.cutLines_addLine hfeed hpath.oneLine fun c hc => hends c hc ▸ hfeed
  · obtain ⟨opened, hopened, hclose⟩ := Text.cutLines_close hfeed text.toList
    refine ⟨opened, hopened, ?_⟩
    rw [hwith, Text.cutLines_addLine hfeed hpath.oneLine (by simp [hfeed]), hclose]

theorem listsPath_plain (h : Listable path) :
    listsPath (plain other) (plain path).toList = true ↔
      plain path = plain other ∨ plain path = "/" ++ plain other := by
  have hempty : (plain path).toList.isEmpty = false := by simpa using h.ne_empty
  have hslash : (plain path).toList = '/' :: (plain other).toList ↔
      plain path = "/" ++ plain other := by
    rw [← String.toList_inj, String.toList_append]
    exact Iff.rfl
  simp only [listsPath, h.trim, hempty, Bool.not_false, Bool.true_and, Bool.and_eq_true,
    bne_iff_ne, Bool.or_eq_true, beq_iff_eq, hslash, String.toList_inj]
  exact and_iff_right h.noComment

/-- Just the added path is listed that was not listed before. -/
theorem lists_withPath (hpath : Listable path) (htext : '\r' ∉ text.toList) :
    lists (withPath text path) other = true ↔
      lists text other = true ∨ plain path = plain other ∨ plain path = "/" ++ plain other := by
  obtain ⟨opened, hopened, hlines⟩ := lines_withPath hpath htext
  have hnone : opened.any (listsPath (plain other)) = false := by
    rcases hopened with rfl | rfl
    · rfl
    · rfl
  rw [lists, lists, hlines, List.any_append, List.any_append, hnone, Bool.or_false,
    Bool.or_eq_true, List.any_cons, List.any_nil, Bool.or_false, listsPath_plain hpath]

theorem entries_withPath (hpath : Listable path) (htext : '\r' ∉ text.toList) :
    entries (withPath text path) = entries text ++ [(plain path).toList] := by
  obtain ⟨opened, hopened, hlines⟩ := lines_withPath hpath htext
  have hnone : opened.filter (fun line => !line.all Text.isBlank) = [] := by
    rcases hopened with rfl | rfl
    · rfl
    · rfl
  have hshown : (!(plain path).toList.all Text.isBlank) = true := by
    rw [Bool.not_eq_true', ← Bool.not_eq_true, List.all_eq_true, ← Text.trim_eq_nil_iff,
      hpath.trim]
    exact hpath.toList_ne_nil
  rw [entries, entries, hlines, List.filter_append, List.filter_append, hnone, List.append_nil]
  exact congrArg _ (List.filter_eq_self.mpr fun line hline => List.mem_singleton.mp hline ▸ hshown)

/-! ## The list in a session -/

/-- The text of a list has no carriage return, as its line ends were unified. -/
theorem HasText.unified {files : Files} {file : String} (h : HasText files file text) :
    '\r' ∉ text.toList := by
  cases h with
  | absent => exact List.not_mem_nil
  | written hread =>
    obtain ⟨content, rfl⟩ := Files.unified_of_read hread
    rw [String.toList_ofList]
    exact Text.not_mem_unifyLineEnds content.toList

theorem HasText.isWritable {files : Files} {file : String} (h : HasText files file text) :
    files.IsWritable file := by
  cases h with
  | written hread => exact .of_read hread
  | absent _ hplace => exact hplace

/-- Looking a path up tells whether the text lists it. -/
theorem runs_has {session : Session} (h : HasText session.files (pathIn directory) text) :
    Runs (has other directory) session (.ok (lists text other)) session := by
  cases h with
  | written hread =>
    refine (runs_isThere.mpr ⟨rfl, rfl⟩).andThen ?_
    rw [Files.isThere_of_read hread, if_pos rfl]
    exact (runs_readText.mpr ⟨hread.symm, rfl⟩).andThen (runs_pure.mpr ⟨rfl, rfl⟩)
  | absent hnone =>
    refine (runs_isThere.mpr ⟨rfl, rfl⟩).andThen ?_
    rw [hnone, if_neg (by simp)]
    exact runs_pure.mpr ⟨rfl, rfl⟩

/-- Adding a path writes the text with that path. -/
theorem runs_add {session : Session} (h : HasText session.files (pathIn directory) text) :
    ∃ written events, session.files.write (pathIn directory) (withPath text path) = .ok written ∧
      Runs (add path directory) session (.ok ()) { session with files := written, events } := by
  obtain ⟨written, hwritten⟩ := h.isWritable.write (withPath text path)
  obtain ⟨events, hlog⟩ := runs_log .debug s!"Added {path} to {pathIn directory}"
    { session with files := written }
  refine ⟨written, events, hwritten, ?_⟩
  have hrest : Runs (do
      writeText (pathIn directory) (withPath text path)
      debug s!"Added {path} to {pathIn directory}") session (.ok ())
      { session with files := written, events } :=
    (runs_writeText.mpr ⟨written, hwritten, rfl⟩).andThen hlog
  refine (runs_isThere.mpr ⟨rfl, rfl⟩).andThen ?_
  cases h with
  | written hread =>
    rw [Files.isThere_of_read hread, if_pos rfl]
    exact (runs_readText.mpr ⟨hread.symm, rfl⟩).andThen hrest
  | absent hnone =>
    rw [hnone, if_neg (by simp)]
    exact (runs_pure.mpr ⟨rfl, rfl⟩).andThen hrest

/-- What was written is the text of the list from then on. -/
theorem HasText.withPath {files written : Files} {file : String} (h : HasText files file text)
    (hpath : Listable path) (hwritten : files.write file (withPath text path) = .ok written) :
    HasText written file (IgnoreFile.withPath text path) := by
  have hread := Files.read_written hwritten
  rw [Text.unifyLineEnds_eq_self (noReturn_withPath hpath h.unified), String.ofList_toList] at hread
  exact .written hread

/-- **Adding a path lists just that path.** Whatever the list held, and however its lines ended, it
can be added to, which changes only the files and the log. The lines that are not blank are then
the earlier ones, in order, and the added one. The added path is listed; any other path is listed
when it was before, or when it is the line that was added, as it stands or behind a slash. -/
theorem add_lists (hlist : HasText before.files (pathIn directory) text) (hpath : Listable path) :
    ∃ after more, Runs (add path directory) before (.ok ()) after ∧
      (∃ files events, after = { before with files, events }) ∧
      HasText after.files (pathIn directory) more ∧
      entries more = entries text ++ [(plain path).toList] ∧
      Runs (has path directory) after (.ok true) after ∧
      ∀ other, ∃ listed listedNow, Runs (has other directory) before (.ok listed) before ∧
        Runs (has other directory) after (.ok listedNow) after ∧
        (listedNow = true ↔
          listed = true ∨ plain path = plain other ∨ plain path = "/" ++ plain other) := by
  obtain ⟨written, events, hwritten, hadd⟩ := runs_add hlist
  have hmore := hlist.withPath hpath hwritten
  have hself : lists (withPath text path) path = true :=
    (lists_withPath hpath hlist.unified).mpr (.inr (.inl rfl))
  refine ⟨_, withPath text path, hadd, ⟨written, events, rfl⟩, hmore,
    entries_withPath hpath hlist.unified, ?_, fun other => ?_⟩
  · rw [← hself]
    exact runs_has hmore
  · exact ⟨_, _, runs_has hlist, runs_has hmore, lists_withPath hpath hlist.unified⟩

/-- A list whose last line was left open, after one that ends in a carriage return. -/
def openSession : Session := { files := [(".gitignore", .text "# secrets\r\n\r\nnode_modules")] }

theorem add_lists_open :
    HasText openSession.files (pathIn "") "# secrets\n\nnode_modules" ∧ Listable "./.env" ∧
    ∃ after more, Runs (add "./.env") openSession (.ok ()) after ∧
      HasText after.files (pathIn "") more ∧
      entries more = ["# secrets".toList, "node_modules".toList, ".env".toList] ∧
      Runs (has "./.env") after (.ok true) after := by
  have hlist : HasText openSession.files (pathIn "") "# secrets\n\nnode_modules" :=
    .written (by rfl)
  have hline : (plain "./.env").toList.all (fun c => !Text.isLineEnd c) = true := by
    decide
  have hpath : Listable "./.env" :=
    ⟨by decide, by decide, by decide, by simpa using hline⟩
  have hearlier : entries "# secrets\n\nnode_modules" =
      ["# secrets".toList, "node_modules".toList] := by
    decide
  obtain ⟨after, more, hadd, -, hmore, hentries, hhas, -⟩ := add_lists hlist hpath
  rw [hearlier] at hentries
  exact ⟨hlist, hpath, after, more, hadd, hmore, hentries, hhas⟩

end CommitStyle.IgnoreFile
