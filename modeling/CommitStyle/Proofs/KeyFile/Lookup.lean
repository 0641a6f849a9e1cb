import CommitStyle.KeyFile.Store
import CommitStyle.Proofs.Session.Conversation

/-! Looking up a key. A key that is found is the value that some statement of the file
gives it, without the white space around it, and looking it up tells at most what could
not be read. -/

namespace CommitStyle

open CommitStyle.Flow

namespace KeyFile

/-- The key file at the path has this value for the key. -/
def Holds (files : Files) (environment : Entries String) (path name : Json) (value : String) :
    Prop :=
  ∃ file content, path = .str file ∧ files.read file.toString = .ok content ∧
    (variablesOf environment (bindings (withoutMark content.toList))).find name =
      .ok (some (some value))

theorem onlyNotes_readText (path : String) : OnlyNotes (Flow.readText path) :=
  .bind .get fun _ => .lift _

theorem onlyNotes_isThere (path : String) : OnlyNotes (Flow.isThere path) :=
  .bind .get fun _ => .pure _

theorem onlyNotes_readStatements (text : String) : OnlyNotes (readStatements text) :=
  .bind (.forM fun _ => .log _ _ rfl) fun _ => .pure _

theorem onlyNotes_readVariables (path : String) (announce : Bool) :
    OnlyNotes (readVariables path announce) := by
  refine .bind .get fun session => ?_
  split
  · refine .bind (onlyNotes_readText path) fun text => ?_
    exact .bind (onlyNotes_readStatements text) fun _ => .bind .get fun _ => .pure _
  · split
    · exact .bind (.log _ _ rfl) fun _ => .pure _
    · exact .pure _

theorem onlyNotes_get? (path name : Json) : OnlyNotes (get? path name) := by
  refine .bind (.lift _) fun path => .bind (onlyNotes_isThere _) fun there => ?_
  split
  · exact .pure _
  refine .bind (onlyNotes_readVariables path true) fun known => .bind (.lift _) fun found => ?_
  split
  · exact .pure _
  · exact .bind (.logOn _ _ _ fun _ => rfl) fun _ => .pure _

/-- The variables of a file are those of its text; what is no file has none. -/
theorem known_of_readVariables {path : String} {announce : Bool} {known : Variables}
    {before after : Session} (h : Runs (readVariables path announce) before (.ok known) after) :
    known = [] ∨ ∃ content, before.files.read path = .ok content ∧
      known = variablesOf before.environment (bindings (withoutMark content.toList)) := by
  have hrun := runs_getThen.mp h
  split at hrun
  · obtain ⟨text, middle, hread, hrest⟩ := runs_bind_ok hrun
    obtain ⟨hcontent, rfl⟩ := runs_lift.mp (runs_getThen.mp hread)
    obtain ⟨statements, told, hstatements, hlast⟩ := runs_bind_ok hrest
    obtain ⟨added, hadds, -⟩ := onlyNotes_readStatements text _ _ _ hstatements
    obtain ⟨_, _, -, hgiven⟩ := runs_bind_ok hstatements
    cases (runs_pure.mp hgiven).1
    have hknown : Runs (pure _) told (.ok known) after := runs_getThen.mp hlast
    cases (runs_pure.mp hknown).1
    exact .inr ⟨text, hcontent.symm, by rw [hadds.environment]⟩
  · left
    dsimp only at hrun
    split at hrun
    · obtain ⟨_, _, -, hnone⟩ := runs_bind_ok hrun
      cases (runs_pure.mp hnone).1
      rfl
    · cases (runs_pure.mp hrun).1
      rfl

theorem find_nil (name : Json) (value : Option String) :
    Variables.find [] name ≠ .ok (some value) := by
  unfold Variables.find
  split <;> simp [Entries.get?]

/-- A key that was looked up is in the file, with white space around it at most. -/
theorem holds_of_get? {path name : Json} {key : String} {before after : Session}
    (h : Runs (get? path name) before (.ok (some key)) after) :
    ∃ value, Holds before.files before.environment path name value ∧ key = Text.strip value := by
  obtain ⟨file, hpath, hrun⟩ := runs_liftThen h
  obtain ⟨text, rfl, rfl⟩ : ∃ text, path = .str text ∧ file = text.toString := by
    cases path <;> cases hpath
    exact ⟨_, rfl, rfl⟩
  obtain ⟨there, _, hthere, hrest⟩ := runs_bind_ok hrun
  obtain ⟨-, rfl⟩ := runs_isThere.mp hthere
  split at hrest
  · cases (runs_pure.mp hrest).1
  obtain ⟨known, _, hknown, hlast⟩ := runs_bind_ok hrest
  obtain ⟨found, hfound, hgiven⟩ := runs_liftThen hlast
  cases found with
  | none =>
    obtain ⟨_, _, -, hnone⟩ := runs_bind_ok hgiven
    cases (runs_pure.mp hnone).1
  | some value? =>
    rcases known_of_readVariables hknown with rfl | ⟨content, hcontent, rfl⟩
    · exact absurd hfound (find_nil name value?)
    have hkey := Except.ok.inj (runs_pure.mp hgiven).1
    cases value? with
    | none => cases hkey
    | some value =>
      refine ⟨value, ⟨text, content, rfl, hcontent, hfound⟩, ?_⟩
      rw [Option.bind_some] at hkey
      split at hkey
      · cases hkey
      · exact Option.some.inj hkey

end KeyFile

end CommitStyle
