import CommitStyle.Proofs.Files.Collapsing
import CommitStyle.Proofs.IgnoreFile.Adding
import CommitStyle.Proofs.KeyFile.References

/-! Storing a key in a file. The key is found with its value from then on, and every other
key as before, whether the file was there or not and whatever stood in it: statements,
comments, lines that are malformed, quotes that are left open. Only a text that begins with
two byte order marks is left out, since reading takes one mark away and storing does not
write it again. -/

namespace CommitStyle.KeyFile

open CommitStyle.Flow
open IgnoreFile (HasText)

variable {path text key value : String} {session before : Session}

/-! ## Byte order marks -/

theorem withoutMark_suffix (s : List Char) : withoutMark s <:+ s := by
  unfold withoutMark
  split
  · exact List.suffix_cons _ _
  · exact List.suffix_refl _

theorem withoutMark_eq_self {s : List Char} (h : s.head? ≠ some '\uFEFF') :
    withoutMark s = s := by
  unfold withoutMark
  split
  · exact absurd rfl h
  · rfl

/-- A text that does not begin with two marks begins with none when one is taken away. -/
theorem head?_withoutMark {s : List Char} (h : ¬ ['\uFEFF', '\uFEFF'] <+: s) :
    (withoutMark s).head? ≠ some '\uFEFF' := by
  intro hhead
  by_cases hmark : s.head? = some '\uFEFF'
  · obtain ⟨rest, rfl⟩ := List.head?_eq_some_iff.mp hmark
    obtain ⟨more, rfl⟩ := List.head?_eq_some_iff.mp hhead
    exact h ⟨more, rfl⟩
  · rw [withoutMark_eq_self hmark] at hhead
    exact hmark hhead

/-! ## The text that is stored -/

/-- The text of a file with a value stored under a key. -/
def storedText (key value text : String) : String :=
  String.ofList (stored key value (withoutMark text.toList))

theorem noReturn_storedText (hkey : IsKey key) (hvalue : IsBare value)
    (htext : '\r' ∉ text.toList) : '\r' ∉ (storedText key value text).toList := by
  rw [storedText, String.toList_ofList]
  intro hmem
  rcases mem_stored hmem with hold | hline
  · exact htext ((withoutMark_suffix _).subset hold)
  · exact not_mem_storingLine hkey hvalue (by decide) (by decide) (by decide) hline

/-- What is stored does not begin with a mark, so that all of it is read again. -/
theorem withoutMark_storedText (hkey : IsKey key)
    (hmark : ¬ ['\uFEFF', '\uFEFF'] <+: text.toList) :
    withoutMark (storedText key value text).toList =
      stored key value (withoutMark text.toList) := by
  rw [storedText, String.toList_ofList]
  refine withoutMark_eq_self fun hhead => ?_
  rcases head?_stored (withoutMark text.toList) key value with hold | hline
  · exact head?_withoutMark hmark (hold.symm.trans hhead)
  · rw [hline, storingLine, List.head?_append_of_ne_nil _ hkey.toList_ne_nil] at hhead
    exact ne_of_isPlainChar (hkey.isPlainChar (List.mem_of_mem_head? hhead)) (by decide) rfl

/-! ## Looking up -/

/-- What the last statement on a key says, if there is one. -/
def saidOf (text name : String) : Option (Option String) :=
  Entries.get? (entriesOf (withoutMark text.toList)).reverse name

/-- A value as it is looked up: without the white space around it, and none if it is empty. -/
def lookedUp (said : Option (Option String)) : Option String :=
  said.join.bind fun value => if value.isEmpty then none else some (Text.strip value)

/-- Looking a key up gives this value, if any, and the file has the key or not. -/
structure Finds (session : Session) (path name : String) (value? : Option String)
    (there : Bool) : Prop where
  value : ∃ after, Runs (get? (.str (.whole path)) (.str (.whole name))) session (.ok value?) after
  there : ∃ after, Runs (has (.str (.whole path)) (.str (.whole name))) session (.ok there) after

/-- Statements that could not be read are told, and that is all. -/
theorem runs_readStatements (text : String) (session : Session) : ∃ events,
    Runs (readStatements text) session (.ok (bindings (withoutMark text.toList)))
      { session with events } := by
  have hwarn (lines : List Nat) (session : Session) : ∃ events, Runs (lines.forM fun line =>
      log .warning s!"python-dotenv could not parse statement starting at line {line}") session
        (.ok ⟨⟩) { session with events } := by
    induction lines generalizing session with
    | nil => exact ⟨session.events, runs_pure.mpr ⟨rfl, rfl⟩⟩
    | cons line rest ih =>
      obtain ⟨events, hlog⟩ := runs_log .warning
        s!"python-dotenv could not parse statement starting at line {line}" session
      obtain ⟨more, hrest⟩ := ih { session with events }
      exact ⟨more, hlog.andThen hrest⟩
  obtain ⟨events, hwarned⟩ := hwarn _ session
  exact ⟨events, hwarned.andThen (runs_pure.mpr ⟨rfl, rfl⟩)⟩

theorem runs_readVariables (hread : session.files.read path = .ok text) (announce : Bool) :
    ∃ events, Runs (readVariables path announce) session
      (.ok (variablesOf session.environment (bindings (withoutMark text.toList))))
      { session with events } := by
  obtain ⟨events, hstatements⟩ := runs_readStatements text session
  refine ⟨events, runs_getThen.mpr ?_⟩
  rw [if_pos (Files.isFile_of_read hread)]
  refine (runs_readText.mpr ⟨hread.symm, rfl⟩).andThen (hstatements.andThen ?_)
  exact runs_getThen.mpr (runs_pure.mpr ⟨rfl, rfl⟩)

theorem runs_pathOf (path : String) (session : Session) :
    Runs (liftM (pathOf (.str (.whole path))) : Flow String) session (.ok path) session :=
  runs_lift.mpr ⟨rfl, rfl⟩

/-- In no file a key is found. -/
theorem finds_absent (hnone : session.files.isThere path = false)
    (hplace : session.files.IsWritable path) (name : String) :
    Finds session path name none false := by
  have hthere : Runs (isThere (Path.collapse path)) session (.ok false) session :=
    runs_isThere.mpr ⟨by rw [hplace.isThere_collapse, hnone], rfl⟩
  refine ⟨⟨session, ?_⟩, ⟨session, ?_⟩⟩
  · exact (runs_pathOf path session).andThen (hthere.andThen (runs_pure.mpr ⟨rfl, rfl⟩))
  · exact (runs_pathOf path session).andThen (hthere.andThen (runs_pure.mpr ⟨rfl, rfl⟩))

theorem finds_written (hread : session.files.read path = .ok text)
    (hliteral : Literal (entriesOf (withoutMark text.toList))) (name : String) :
    Finds session path name (lookedUp (saidOf text name)) (saidOf text name).isSome := by
  have hthere : Runs (isThere (Path.collapse path)) session (.ok true) session :=
    runs_isThere.mpr ⟨by rw [Files.isThere_of_read (Files.read_collapse hread)], rfl⟩
  have hsaid : Variables.find (variablesOf session.environment (bindings (withoutMark text.toList)))
      (.str (.whole name)) = .ok (saidOf text name) :=
    congrArg Except.ok (get?_variablesOf session.environment hliteral name)
  have hfind (middle : Session) : Runs (liftM (Variables.find (variablesOf session.environment
      (bindings (withoutMark text.toList))) (.str (.whole name))) : Flow (Option (Option String)))
      middle (.ok (saidOf text name)) middle := runs_lift.mpr ⟨hsaid.symm, rfl⟩
  constructor
  · obtain ⟨events, hknown⟩ := runs_readVariables hread true
    cases hlast : saidOf text name with
    | some value =>
      rw [hlast] at hfind
      refine ⟨{ session with events }, (runs_pathOf path session).andThen (hthere.andThen ?_)⟩
      exact hknown.andThen ((hfind _).andThen (runs_pure.mpr ⟨rfl, rfl⟩))
    | none =>
      obtain ⟨more, hlog⟩ := runs_logOn .warning (.str (.whole name))
        (fun key => s!"Key {key} not found in {path}.") { session with events }
      rw [hlast] at hfind
      refine ⟨{ session with events := more },
        (runs_pathOf path session).andThen (hthere.andThen ?_)⟩
      exact hknown.andThen ((hfind _).andThen (hlog.andThen (runs_pure.mpr ⟨rfl, rfl⟩)))
  · obtain ⟨events, hknown⟩ := runs_readVariables hread false
    refine ⟨{ session with events }, (runs_pathOf path session).andThen (hthere.andThen ?_)⟩
    exact hknown.andThen ((hfind _).andThen (runs_pure.mpr ⟨rfl, rfl⟩))

theorem finds (hfile : HasText session.files path text)
    (hliteral : Literal (entriesOf (withoutMark text.toList))) (name : String) :
    Finds session path name (lookedUp (saidOf text name)) (saidOf text name).isSome := by
  cases hfile with
  | absent hnone hplace =>
    have hsaid : saidOf "" name = none := by
      rw [saidOf, show withoutMark "".toList = [] from rfl, entriesOf_nil]
      rfl
    rw [hsaid]
    exact finds_absent hnone hplace name
  | written hread => exact finds_written hread hliteral name

/-! ## Storing -/

theorem touch_collapse {files : Files} (h : HasText files path text) :
    ∃ touched, files.touch (Path.collapse path) = .ok touched ∧ touched.read path = .ok text := by
  cases h with
  | written hread => exact ⟨files, Files.touch_of_read (Files.read_collapse hread), hread⟩
  | absent hnone hplace => exact Files.touch_of_absent hplace hnone

/-- The text that is written, with the line that stores the value. -/
theorem storedText_eq (key value text : String) :
    String.ofList (withKey (.str (.whole key))
      (s!"{key}={value}\n").toList (bindings (withoutMark text.toList))) =
        storedText key value text := by
  have hline : (s!"{key}={value}\n").toList = storingLine key value := by
    simp only [String.toList_append, List.append_assoc]
    rfl
  rw [hline, storedText, stored]

/-- Storing writes the text with the key, and may tell what could not be read. -/
theorem runs_store (hfile : HasText session.files path text) (hkey : IsKey key)
    (hvalue : IsBare value) : ∃ files events,
      Runs (store (.str (.whole path)) (.str (.whole key)) value) session (.ok ())
        { session with files, events } ∧
      files.read path = .ok (storedText key value text) := by
  obtain ⟨touched, htouch, hread⟩ := touch_collapse hfile
  obtain ⟨told, hstatements⟩ := runs_readStatements text { session with files := touched }
  obtain ⟨written, hwrite, hagain⟩ := Files.write_collapse hread (storedText key value text)
  obtain ⟨events, hlog⟩ := runs_log .debug
    s!"Stored {key} in {Path.collapse path}"
    { session with files := written, events := told }
  have htouched : Runs (touch (Path.collapse path)) session (.ok ())
      { session with files := touched } :=
    runs_getThen.mpr ((runs_lift.mpr ⟨htouch.symm, rfl⟩).andThen (runs_modify.mpr ⟨rfl, rfl⟩))
  have hagainRead : Runs (readText (Path.collapse path)) { session with files := touched }
      (.ok text) { session with files := touched } :=
    runs_readText.mpr ⟨(Files.read_collapse hread).symm, rfl⟩
  have hwritten : Runs (writeText (Path.collapse path) (storedText key value text))
      { session with files := touched, events := told } (.ok ())
      { session with files := written, events := told } :=
    runs_writeText.mpr ⟨written, hwrite, rfl⟩
  have hshown (before : Session) : Runs (liftM (Json.displayed (.str (.whole key))) : Flow String)
      before (.ok key) before := runs_lift.mpr ⟨rfl, rfl⟩
  rw [← storedText_eq] at hwritten
  refine ⟨written, events, ?_, ?_⟩
  · refine (runs_pathOf path session).andThen (htouched.andThen (hagainRead.andThen ?_))
    exact hstatements.andThen ((hshown _).andThen (hwritten.andThen hlog))
  · rw [hagain, Text.unifyLineEnds_eq_self (noReturn_storedText hkey hvalue hfile.unified),
      String.ofList_toList]

/-- A bare value is looked up as it was stored. -/
theorem lookedUp_bare (h : IsBare value) : lookedUp (some (some value)) = some value := by
  have hstrip : Text.strip value = value := by
    rw [Text.strip, Text.trim, Text.trimStart,
      dropWhile_none fun c hc => not_blank_of_isPlainChar (h.chars c hc), trimEnd_plain h.chars,
      String.ofList_toList]
  simp [lookedUp, h.ne_empty, hstrip]

/-- **A stored key is found, and every other key as before.** Whatever stands in the file, if it is
there at all, a key with a bare value can be stored in it. From then on looking it up gives that
value and the file has the key, and for every other name both are as they were. The text may hold
no references, and it may not begin with two byte order marks. -/
theorem store_keeps_others (hfile : HasText before.files path text)
    (hmark : ¬ ['\uFEFF', '\uFEFF'] <+: text.toList) (hplain : NoReference text.toList)
    (hkey : IsKey key) (hvalue : IsBare value) :
    ∃ after, Runs (store (.str (.whole path)) (.str (.whole key)) value) before (.ok ()) after ∧
      (∃ files events, after = { before with files, events }) ∧
      Finds after path key (some value) true ∧
      ∀ other, other ≠ key → ∃ found there,
        Finds before path other found there ∧ Finds after path other found there := by
  have hliteral : Literal (entriesOf (withoutMark text.toList)) :=
    literal_entriesOf (hplain.of_infix (withoutMark_suffix _).isInfix)
  obtain ⟨files, events, hstore, hread⟩ := runs_store hfile hkey hvalue
  have hsaid (name : String) : saidOf (storedText key value text) name =
      if key = name then some (some value) else saidOf text name := by
    rw [saidOf, withoutMark_storedText hkey hmark, get?_reverse_stored hkey hvalue]
    rfl
  have hstored : Literal (entriesOf (withoutMark (storedText key value text).toList)) := by
    rw [withoutMark_storedText hkey hmark]
    exact hliteral.stored hkey hvalue
  have hafter (name : String) : Finds { before with files, events } path name
      (lookedUp (saidOf (storedText key value text) name))
      (saidOf (storedText key value text) name).isSome :=
    finds_written hread hstored name
  refine ⟨_, hstore, ⟨files, events, rfl⟩, ?_, fun other hother => ?_⟩
  · have hself := hafter key
    rw [hsaid, if_pos rfl, lookedUp_bare hvalue] at hself
    exact hself
  · have hkept := hafter other
    rw [hsaid, if_neg (Ne.symm hother)] at hkept
    exact ⟨_, _, finds hfile hliteral other, hkept⟩

/-- A file with a mark, a comment, a statement twice, quotes that are left open, a value over two
lines and no end of the last line. -/
def tangledSession : Session :=
  { files := [(".env", .text ("\uFEFF# keys\r\nexport K=old # once\r\nA = \x27open\r\n" ++
      "B=\"one\r\ntwo\"\n\n K\n=lost\nC=\x27last"))] }

def tangledText : String :=
  "\uFEFF# keys\nexport K=old # once\nA = \x27open\nB=\"one\ntwo\"\n\n K\n=lost\nC=\x27last"

theorem store_keeps_others_tangled :
    HasText tangledSession.files "./.env" tangledText ∧
    ¬ ['\uFEFF', '\uFEFF'] <+: tangledText.toList ∧ NoReference tangledText.toList ∧
    IsKey "K" ∧ IsBare "new-1.0" ∧
    ∃ after, Runs (store (.str (.whole "./.env")) (.str (.whole "K")) "new-1.0")
        tangledSession (.ok ()) after ∧
      Finds after "./.env" "K" (some "new-1.0") true ∧
      ∃ found there, Finds tangledSession "./.env" "B" found there ∧
        Finds after "./.env" "B" found there := by
  have hfile : HasText tangledSession.files "./.env" tangledText := .written (by rfl)
  have hmark : ¬ ['\uFEFF', '\uFEFF'] <+: tangledText.toList := by decide
  have hplain : NoReference tangledText.toList := by
    unfold NoReference
    decide +kernel
  have hkey : IsKey "K" := ⟨by decide, List.all_eq_true.mp (by decide)⟩
  have hvalue : IsBare "new-1.0" := ⟨by decide, List.all_eq_true.mp (by decide)⟩
  obtain ⟨after, hstore, -, hself, hothers⟩ := store_keeps_others hfile hmark hplain hkey hvalue
  exact ⟨hfile, hmark, hplain, hkey, hvalue, after, hstore, hself,
    hothers "B" (by decide)⟩

/-- A file that begins with two marks. -/
def markedSession : Session := { files := [(".env", .text "\uFEFF\uFEFFA=1\n")] }

/-- Reading leaves the second mark to the name in front; storing does not write the first one
again, and so the name is without a mark from then on. -/
theorem store_changes_marked :
    HasText markedSession.files ".env" "\uFEFF\uFEFFA=1\n" ∧
    NoReference "\uFEFF\uFEFFA=1\n".toList ∧ IsKey "K" ∧ IsBare "v" ∧
    ∃ after, Runs (store (.str (.whole ".env")) (.str (.whole "K")) "v") markedSession (.ok ())
        after ∧
      Finds markedSession ".env" "A" none false ∧ Finds after ".env" "A" (some "1") true := by
  have hfile : HasText markedSession.files ".env" "\uFEFF\uFEFFA=1\n" := .written (by rfl)
  have hplain : NoReference "\uFEFF\uFEFFA=1\n".toList := by
    unfold NoReference
    decide
  have hkey : IsKey "K" := ⟨by decide, List.all_eq_true.mp (by decide)⟩
  have hvalue : IsBare "v" := ⟨by decide, List.all_eq_true.mp (by decide)⟩
  have hread : Binding.read "\uFEFFA=1\n".toList =
      (⟨some "\uFEFFA", some "1", "\uFEFFA=1\n".toList, true⟩, []) := by decide
  have hmarked : entriesOf "\uFEFFA=1\n".toList = [("\uFEFFA", some "1")] := by
    rw [entriesOf_eq, hread, entriesOf_nil]
    rfl
  have hstored : stored "K" "v" "\uFEFFA=1\n".toList = "\uFEFFA=1\nK=v\n".toList := by
    rw [stored, withKey_eq, hmarked, if_neg (by decide), if_pos (by decide)]
    decide
  have hfirst : Binding.read "A=1\nK=v\n".toList =
      (⟨some "A", some "1", "A=1\n".toList, true⟩, "K=v\n".toList) := by decide
  have hunmarked : entriesOf "A=1\nK=v\n".toList = [("A", some "1"), ("K", some "v")] := by
    have hline := entriesOf_storingLine hkey hvalue []
    rw [entriesOf_nil] at hline
    rw [entriesOf_eq, hfirst]
    exact congrArg _ hline
  have hone : withoutMark "\uFEFF\uFEFFA=1\n".toList = "\uFEFFA=1\n".toList := rfl
  have hnone : withoutMark "\uFEFFA=1\nK=v\n".toList = "A=1\nK=v\n".toList := rfl
  have htext : storedText "K" "v" "\uFEFF\uFEFFA=1\n" = "\uFEFFA=1\nK=v\n" := by
    rw [storedText, hone, hstored, String.ofList_toList]
  obtain ⟨files, events, hstore, hagain⟩ := runs_store hfile hkey hvalue
  rw [htext] at hagain
  refine ⟨hfile, hplain, hkey, hvalue, _, hstore, ?_, ?_⟩
  · have hliteral := literal_entriesOf (hplain.of_infix (withoutMark_suffix _).isInfix)
    have hfinds := finds hfile hliteral "A"
    rw [saidOf, hone, hmarked] at hfinds
    exact hfinds
  · have hreference : NoReference "A=1\nK=v\n".toList := by
      unfold NoReference
      decide
    have hliteral := literal_entriesOf hreference
    rw [← hnone] at hliteral
    have hfinds : Finds { markedSession with files, events } ".env" "A" _ _ :=
      finds_written hagain hliteral "A"
    rw [saidOf, hnone, hunmarked] at hfinds
    exact hfinds

end CommitStyle.KeyFile
