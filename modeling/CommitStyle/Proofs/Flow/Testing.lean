import CommitStyle.Proofs.Flow.BranchNames
import CommitStyle.Proofs.Flow.CommitOrder

/-! What a test leaves behind: nothing. The flow of a commit reads the branch and, for the
suggestions, the staged changes; the flow of a branch only talks. No file changes,
whether the flow comes to its end or stops on the way. -/

namespace CommitStyle.Flow

variable {config : Config} {rules : List CommandRule}

/-- The flow leaves the files as they are, and the commands that it runs are a beginning of
these. -/
def Touches {α : Type} (flow : Flow α) (words : List (List String)) (session : Session) : Prop :=
  (flow.runOn session).2.files = session.files ∧
    ∃ added, (flow.runOn session).2.events = session.events ++ added ∧ commandsOf added <+: words

theorem touches_of_does {α : Type} {flow : Flow α} {words : List (List String)}
    {session : Session}
    (h : Does session.rules flow fun deeds _ => commandsOf deeds <+: words) :
    Touches flow words session := by
  obtain ⟨deeds, hdid, hwords⟩ := h _ _ _ rfl (runs_runOn flow session)
  obtain ⟨added, hadded, hcommands⟩ := hdid.commands
  exact ⟨hdid.files, added, hadded, hcommands ▸ hwords⟩

namespace Commit

/-- The commands that a test may run. -/
def testWords : List (List String) := [Git.headWords, Git.statsWords, Git.diffWords]

theorem does_settle_reading (branch : String) (fields : Entries String) :
    Does rules (settle config branch fields) fun deeds _ =>
      commandsOf deeds <+: [Git.statsWords, Git.diffWords] := by
  refine .bind (Title.does_choose config fields) (fun title deeds hdeeds => ?_)
    fun _ _ hdeeds => hdeeds.1.commands
  refine .talk (onlyConverses_settleTitled config branch title).talks fun _ => ?_
  simpa using hdeeds.1.commands

/-- In a test nothing is staged. -/
theorem does_plan_testing :
    Does rules (plan config true) fun deeds _ => commandsOf deeds <+: testWords := by
  refine .bind does_currentBranch (fun branch deeds hdeeds => ?_) ?_
  · obtain ⟨rfl, -⟩ := hdeeds
    have hhead : commandsOf ([.command Git.headWords] ++ []) <+: testWords := by
      simp [commandsOf, Event.words?, testWords]
    refine .afterAnyTalk (.lift _) (fun pattern => ?_) fun _ => hhead
    refine .afterAnyTalk (Selection.onlyConverses_askFields _ _).talks (fun fields => ?_)
      fun _ => hhead
    -- of all that planning runs, only staging changes anything, and a test skips it
    have hunstaged : (config.stageAllChanges && !true) = false := Bool.and_false _
    rw [hunstaged]
    refine (does_settle_reading branch fields).mono fun more _ hmore => ?_
    rw [commandsOf_append]
    exact List.prefix_append_right_inj [Git.headWords] |>.mpr hmore
  · rintro failure deeds ⟨rfl, -⟩
    exact List.prefix_append [Git.headWords] _

theorem does_run_testing :
    Does rules (run config true) fun deeds _ => commandsOf deeds <+: testWords := by
  refine does_run_of_work (fun _ => List.nil_prefix) ?_
  refine .bind does_plan_testing (fun plan deeds hdeeds => ?_) fun _ _ hdeeds => hdeeds
  exact .talk (.emit rfl) fun _ => by simpa using hdeeds

end Commit

theorem Branch.onlyTalks_run_testing (config : Config) : OnlyTalks (Branch.run config true) := by
  refine .bind (Dialog.onlyTalks_tell _) fun _ => .bind (Dialog.onlyTalks_tell _) fun _ => ?_
  refine .bind (.lift _) fun obstacle => ?_
  split
  · exact Dialog.onlyTalks_tell _
  · exact .bind (Branch.onlyConverses_plan config true).talks fun plan => .emit rfl

/-- **A test changes nothing.** Of the commands, a commit runs those that read the branch and the
staged changes at most, and a branch runs none. -/
theorem testing_harmless (config : Config) (session : Session) :
    Touches (Commit.run config true) Commit.testWords session ∧
      Touches (Branch.run config true) [] session :=
  ⟨touches_of_does Commit.does_run_testing,
    touches_of_does (.talk (Branch.onlyTalks_run_testing config) fun _ => List.nil_prefix)⟩

end CommitStyle.Flow
