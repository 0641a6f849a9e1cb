import CommitStyle.Flow.Commit
import CommitStyle.Proofs.Flow.Titles

/-! The order of the commands of a commit, and what has to come before each. A run
follows one course: reading the branch, staging, reading the staged changes,
changing the version, checking that something is staged, committing, pushing and
showing the status. Each command but the last one that is run has passed, so what a
command waits for can be read off the course. -/

namespace CommitStyle.Flow.Commit

variable {config : Config} {rules : List CommandRule}

/-! ## The course -/

/-- What is run before a title is chosen. -/
def opening (config : Config) : List Step :=
  .must Git.headWords :: if config.stageAllChanges then [.must Git.stageWords] else []

/-- What is run while all is asked that a commit needs. -/
def preparation (config : Config) (reads : List (List String)) : List Step :=
  opening config ++ reads.map .anyway

def VersionChange.words (change : VersionChange) : List String :=
  Npm.versionWords change.version change.preId true

/-- The check fails when something is staged. -/
def check : Step := .mustNot Git.checkWords

/-- What is run before the commit is made. -/
def changing (plan : Plan) : List Step :=
  plan.version.toList.map (fun change => .must change.words) ++ [check]

/-- What is run after the commit is made. -/
def closing (plan : Plan) : List Step :=
  (if plan.push then [.must (Git.pushWords plan.branch)] else []) ++ [.must Git.statusWords]

def making (plan : Plan) : Step := .must (Git.commitWords plan.title plan.description)

/-- What is run once all is planned. -/
def execution (plan : Plan) : List Step := changing plan ++ making plan :: closing plan

/-- The commands of a commit in their order. -/
def course (config : Config) (reads : List (List String)) (plan : Plan) : List Step :=
  preparation config reads ++ execution plan

/-! ## Planning -/

/-- What holds of a plan whose questions have all been answered. -/
structure Settled (config : Config) (rules : List CommandRule) (plan : Plan) : Prop where
  branch : ∃ output, Answers rules Git.headWords output ∧ plan.branch = Text.strip output
  title : ∃ fields, Title.Accepted config fields plan.title
  description : plan.description.length ≤ maxDescriptionLength
  version : config.versionPrompt plan.branch = .required → plan.version.isSome

theorem does_currentBranch :
    Does rules Git.currentBranch fun deeds result => deeds = [.command Git.headWords] ∧
      ∀ branch, result = .ok branch →
        ∃ output, Answers rules Git.headWords output ∧ branch = Text.strip output := by
  refine .bind (does_run Git.headWords "get current branch") ?_ ?_
  · rintro output deeds ⟨rfl, houtput⟩
    refine .pure ⟨rfl, fun branch hbranch => ⟨output, houtput output rfl, ?_⟩⟩
    exact (Except.ok.inj hbranch).symm
  · rintro failure deeds ⟨rfl, -⟩
    exact ⟨rfl, by simp⟩

theorem does_stageAll :
    Does rules Git.stageAll fun deeds result => deeds = [.command Git.stageWords] ∧
      (result = .ok () → Exits rules Git.stageWords 0) := by
  refine .bind (does_run Git.stageWords "stage changes") ?_ ?_
  · rintro output deeds ⟨rfl, houtput⟩
    exact .pure ⟨rfl, fun _ => (houtput output rfl).exits⟩
  · rintro failure deeds ⟨rfl, -⟩
    exact ⟨rfl, by simp⟩

theorem onlyConverses_chooseVersion (config : Config) : OnlyConverses (chooseVersion config) := by
  refine .bind (Dialog.onlyConverses_choose _ _ _) fun version => ?_
  split
  · exact .bind (Dialog.onlyConverses_askText _ (Dialog.onlyNotes_refusing _) _) fun _ => .pure _
  split
  · exact .bind (Dialog.onlyConverses_askText _ Dialog.onlyNotes_anything _) fun _ => .pure _
  · exact .pure _

theorem onlyConverses_askVersion (config : Config) (branch : String) :
    OnlyConverses (askVersion config branch) := by
  have hchoose := onlyConverses_chooseVersion config
  unfold askVersion
  split
  · exact .pure _
  · exact .bind hchoose fun _ => .pure _
  · refine .bind (Dialog.onlyConverses_confirm _ _) fun agreed => ?_
    split
    · exact .bind hchoose fun _ => .pure _
    · exact .pure _

/-- A change of version that is required is chosen. -/
theorem gives_askVersion (config : Config) (branch : String) :
    Gives (askVersion config branch) fun version =>
      config.versionPrompt branch = .required → version.isSome := by
  unfold askVersion
  split
  · rename_i hprompt
    exact .pure fun h => by simp [h] at hprompt
  · exact .last fun _ => .pure fun _ => rfl
  · rename_i hprompt
    refine fun _ _ _ _ h => ?_
    simp [h] at hprompt

def askDescription : Flow String :=
  Dialog.askText "Commit description?"
    (Dialog.refusing fun description => (Answer.descriptionFault? description).map (·.message))
    (some (.str ""))

theorem onlyConverses_askDescription : OnlyConverses askDescription :=
  Dialog.onlyConverses_askText _ (Dialog.onlyNotes_refusing _) _

theorem gives_askDescription :
    Gives askDescription fun description => description.length ≤ maxDescriptionLength := by
  refine Dialog.gives_askText (fun answer => ?_) _
  intro before verdict after hrun description hverdict
  have hfault := Dialog.gives_refusing _ _ _ _ _ hrun description hverdict
  rw [Option.map_eq_none_iff] at hfault
  unfold Answer.descriptionFault? at hfault
  split at hfault
  · cases hfault
  · omega

/-- What planning has run, and what holds of the plan. -/
def Prepares (config : Config) (rules : List CommandRule) (deeds : List Event)
    (result : Except Failure Plan) : Prop :=
  ∃ reads, reads <+: [Git.statsWords, Git.diffWords] ∧
    Follows rules (preparation config reads) (commandsOf deeds) ∧
    ∀ plan, result = .ok plan →
      Completes rules (preparation config reads) (commandsOf deeds) ∧ Settled config rules plan

theorem Prepares.of_opening {deeds : List Event} {failure : Failure}
    (h : Follows rules (opening config) (commandsOf deeds)) :
    Prepares config rules deeds (.error failure) :=
  ⟨[], List.nil_prefix, h.extend, by simp⟩

/-- The questions that are left once there is a title. -/
def settleTitled (config : Config) (branch title : String) : Flow Plan := do
  let description ← askDescription
  let version ← askVersion config branch
  let push ← Dialog.confirm "Push changes?"
  return { branch, title, description, version, push }

theorem onlyConverses_settleTitled (config : Config) (branch title : String) :
    OnlyConverses (settleTitled config branch title) := by
  refine .bind onlyConverses_askDescription fun description => ?_
  refine .bind (onlyConverses_askVersion _ _) fun version => ?_
  exact .bind (Dialog.onlyConverses_confirm _ _) fun push => .pure _

/-- The questions from the title on. -/
def settle (config : Config) (branch : String) (fields : Entries String) : Flow Plan := do
  settleTitled config branch (← Title.choose config fields)

theorem does_settle {deeds : List Event} {branch output : String} (fields : Entries String)
    (hdone : Completes rules (opening config) (commandsOf deeds))
    (houtput : Answers rules Git.headWords output) (hbranch : branch = Text.strip output) :
    Does rules (settle config branch fields) fun more result =>
      Prepares config rules (deeds ++ more) result := by
  refine .bind (Title.does_choose config fields) (fun title more hmore => ?_) ?_
  · obtain ⟨hreads, haccepted⟩ := hmore
    have hall : Completes rules (preparation config (commandsOf more))
        (commandsOf (deeds ++ more)) := by
      rw [commandsOf_append]
      exact hdone.append (.anyway _)
    have hstop (result : Except Failure Plan)
        (hsettled : ∀ plan, result = .ok plan → Settled config rules plan) :
        Prepares config rules (deeds ++ (more ++ [])) result := by
      rw [List.append_nil]
      exact ⟨commandsOf more, hreads.commands, hall.follows,
        fun plan hplan => ⟨hall, hsettled plan hplan⟩⟩
    have herror (failure : Failure) :
        Prepares config rules (deeds ++ (more ++ [])) (.error failure) := hstop _ (by simp)
    refine .afterTalk onlyConverses_askDescription.talks gives_askDescription
      (fun description hlength => ?_) herror
    refine .afterTalk (onlyConverses_askVersion config branch).talks
      (gives_askVersion config branch) (fun version hversion => ?_) herror
    refine .afterAnyTalk (Dialog.onlyConverses_confirm _ _).talks (fun push => ?_) herror
    refine .pure (hstop _ fun plan hplan => ?_)
    cases hplan
    exact ⟨⟨output, houtput, hbranch⟩, ⟨fields, haccepted title rfl⟩, hlength, hversion⟩
  · rintro failure more ⟨hreads, -⟩
    refine ⟨commandsOf more, hreads.commands, ?_, by simp⟩
    rw [commandsOf_append]
    exact (hdone.append (.anyway _)).follows

theorem does_plan : Does rules (plan config false) (Prepares config rules) := by
  refine .bind does_currentBranch (fun branch deeds hdeeds => ?_) ?_
  · obtain ⟨rfl, hbranch⟩ := hdeeds
    obtain ⟨output, houtput, hstrip⟩ := hbranch branch rfl
    have hhead : Completes rules [.must Git.headWords] [Git.headWords] :=
      .single houtput.exits
    have herror (failure : Failure) :
        Prepares config rules ([.command Git.headWords] ++ []) (.error failure) :=
      .of_opening hhead.follows.extend
    refine .afterAnyTalk (.lift _) (fun pattern => ?_) herror
    refine .afterAnyTalk (Selection.onlyConverses_askFields _ _).talks (fun fields => ?_) herror
    show Does rules (if config.stageAllChanges && !false
      then Git.stageAll >>= fun _ => settle config branch fields
      else settle config branch fields) _
    split
    · rename_i hstage
      have hopening : opening config = [.must Git.headWords, .must Git.stageWords] := by
        simp only [Bool.not_false, Bool.and_true] at hstage
        rw [opening, if_pos hstage]
      refine .bind does_stageAll (fun _ deeds hdeeds => ?_) ?_
      · obtain ⟨rfl, hexits⟩ := hdeeds
        have hopened : Completes rules (opening config)
            (commandsOf [.command Git.headWords, .command Git.stageWords]) := by
          rw [hopening]
          exact hhead.append (.single (hexits rfl))
        exact does_settle fields hopened houtput hstrip
      · rintro failure deeds ⟨rfl, -⟩
        refine .of_opening ?_
        rw [hopening]
        exact hhead.thenFollows (.single (.must Git.stageWords))
    · rename_i hstage
      have hopened : Completes rules (opening config) (commandsOf [.command Git.headWords]) := by
        simp only [Bool.not_false, Bool.and_true] at hstage
        rw [opening, if_neg hstage]
        exact hhead
      exact does_settle fields hopened houtput hstrip
  · rintro failure deeds ⟨rfl, -⟩
    have hhead : Follows rules [.must Git.headWords] [Git.headWords] := .single _
    exact .of_opening hhead.extend

/-! ## Executing -/

theorem does_changeVersion (change : VersionChange) :
    Does rules (Npm.changeVersion change.version change.preId) fun deeds result =>
      deeds = [.command change.words] ∧ ∀ version, result = .ok version →
        Exits rules change.words 0 := by
  refine .afterNotice (.log _ _) (.log _ _) fun _ => .bind (.command _) ?_ ?_
  · rintro ⟨code, output, errors⟩ deeds ⟨rfl, hexited⟩
    dsimp only
    split
    · rename_i hcode
      exact .pure ⟨rfl, fun _ _ => ⟨_, _, beq_iff_eq.mp hcode ▸ hexited _ _ _ rfl⟩⟩
    · exact .throw ⟨rfl, by simp⟩
  · rintro failure deeds ⟨rfl, -⟩
    exact ⟨rfl, by simp⟩

/-- What is run from the commit on. -/
def finish (plan : Plan) : Flow Unit := do
  let output ← Git.commit plan.title (some plan.description)
  Dialog.success "Commit successfully completed"
  Dialog.output output
  if plan.push then
    Dialog.info "Push changes..."
    Dialog.output (← Git.push plan.branch)
  Dialog.output (← Git.status)

theorem does_status :
    Does rules (Git.status >>= Dialog.output) fun deeds _ =>
      Follows rules [.must Git.statusWords] (commandsOf deeds) :=
  does_runThen _ _ fun _ => .talk (Dialog.onlyNotes_output _).converses.talks fun _ => .nil

theorem does_finish (plan : Plan) :
    Does rules (finish plan) fun deeds _ =>
      Follows rules (making plan :: closing plan) (commandsOf deeds) := by
  refine does_runThen _ _ fun output => ?_
  refine does_afterTalk (Dialog.onlyTalks_tell _) fun _ => ?_
  refine does_afterTalk (Dialog.onlyNotes_output _).converses.talks fun _ => ?_
  dsimp only [closing]
  split
  · refine does_afterTalk (Dialog.onlyTalks_tell _) fun _ => does_runThen _ _ fun output => ?_
    exact does_afterTalk (Dialog.onlyNotes_output _).converses.talks fun _ => does_status
  · exact does_status

/-- From the check on. -/
theorem does_check (plan : Plan) :
    Does rules (do
      if !(← Git.hasStagedChanges) then Dialog.error "No staged changes to commit"
      else finish plan) fun deeds _ =>
        Follows rules (check :: making plan :: closing plan) (commandsOf deeds) := by
  unfold Git.hasStagedChanges
  rw [bind_assoc]
  refine does_mustNot _ (fun output errors => ?_) fun code output errors hcode => ?_
  · simp only [pure_bind, bne_self_eq_false, Bool.not_false, if_true]
    exact Dialog.onlyTalks_tell _
  · have hstaged : (code != 0) = true := bne_iff_ne.mpr hcode
    simp only [pure_bind, hstaged]
    exact does_finish plan

theorem does_applyThen {next : Unit → Flow Unit} {later : List Step} (change : VersionChange)
    (hnext : Does rules (next ()) fun more _ => Follows rules later (commandsOf more)) :
    Does rules (applyVersion change >>= next) fun deeds _ =>
      Follows rules (.must change.words :: later) (commandsOf deeds) := by
  have hexits : Does rules (applyVersion change) fun deeds result =>
      deeds = [.command change.words] ∧ ∀ a, result = .ok a → Exits rules change.words 0 := by
    have hshows : Markup.Shows (Dialog.notice "bold blue" "ℹ️" "Update version...") :=
      Dialog.shows_notice Dialog.isTag_info (by decide) (by decide)
    refine .afterNotice (Dialog.onlyTalks_tell _) (Dialog.fails_tell hshows) fun _ => ?_
    refine .bind (does_changeVersion change) ?_ ?_
    · rintro version deeds ⟨rfl, hexits⟩
      exact .talk (Dialog.onlyTalks_tell _) fun _ => ⟨rfl, fun _ _ => hexits version rfl⟩
    · rintro failure deeds ⟨rfl, -⟩
      exact ⟨rfl, by simp⟩
  exact does_must hexits fun _ => hnext

theorem does_execute (plan : Plan) :
    Does rules (execute plan) fun deeds _ => Follows rules (execution plan) (commandsOf deeds) := by
  have hcheck : Does rules _ _ := does_check plan
  unfold execute execution changing
  cases plan.version with
  | none => exact hcheck
  | some change => exact does_applyThen change hcheck

/-- A quality that commands and notices have, whatever comes of them, and that steps hand on. -/
structure Unattended (P : ∀ {α : Type}, Flow α → Prop) : Prop where
  pure {α : Type} (a : α) : P (pure a : Flow α)
  bind {α β : Type} {flow : Flow α} {next : α → Flow β} : P flow → (∀ a, P (next a)) →
    P (flow >>= next)
  fail {α : Type} {failure : Failure} : failure ≠ .interrupted → failure ≠ .inputExhausted →
    P (throw failure : Flow α)
  notice {event : Event} : event.isNotice = true → P (Flow.emit event)
  log (level : LogLevel) (text : String) : P (Flow.log level text)
  command (words : List String) : P (Flow.command words)

namespace Unattended

variable {P : ∀ {α : Type}, Flow α → Prop} (h : Unattended P)
include h

theorem run (words : List String) (action : String) : P (Git.run words action) := by
  refine h.bind (h.log _ _) fun _ => h.bind (h.command words) fun outcome => ?_
  dsimp only
  split
  · exact h.pure _
  · exact h.fail nofun nofun

/-- A notice is given, or fails for its tags. -/
theorem tell (markup : String) : P (Dialog.tell markup) := by
  cases hshown : Markup.plain markup with
  | ok text =>
    rw [Dialog.tell_eq_emit ⟨text, hshown⟩]
    exact h.notice rfl
  | error fault =>
    rw [Dialog.tell_eq_throw hshown]
    exact h.fail nofun nofun

theorem output (text : String) : P (Dialog.output text) := by
  unfold Dialog.output
  split
  · exact h.pure _
  · exact h.notice rfl

theorem applyVersion (change : VersionChange) : P (applyVersion change) := by
  refine h.bind (h.tell _) fun _ => h.bind ?_ fun version => h.tell _
  refine h.bind (h.log _ _) fun _ => h.bind (h.command _) fun outcome => ?_
  dsimp only
  split
  · exact h.pure _
  · exact h.fail nofun nofun

theorem finish (plan : Plan) : P (finish plan) := by
  have hstatus : P (Git.status >>= Dialog.output) := h.bind (h.run _ _) h.output
  refine h.bind (h.run _ _) fun output => h.bind (h.tell _) fun _ => ?_
  refine h.bind (h.output output) fun _ => ?_
  dsimp only
  split
  · refine h.bind (h.tell _) fun _ => h.bind (h.run _ _) fun pushed => ?_
    exact h.bind (h.output pushed) fun _ => hstatus
  · exact hstatus

/-- Once all is planned the user is asked nothing more. -/
theorem execute (plan : Plan) : P (execute plan) := by
  have hcheck : P (do
      if !(← Git.hasStagedChanges) then Dialog.error "No staged changes to commit"
      else Commit.finish plan) := by
    refine h.bind (h.bind (h.command _) fun _ => h.pure _) fun staged => ?_
    split
    · exact h.tell _
    · exact h.finish plan
  unfold Commit.execute
  cases plan.version with
  | none => exact hcheck
  | some change => exact h.bind (h.applyVersion change) fun _ => hcheck

end Unattended

/-! ## The whole run -/

/-- What a run has run: a beginning of a course, and of a settled one once the preparation is
done with. -/
def Conducts (config : Config) (rules : List CommandRule) (ran : List (List String)) : Prop :=
  ∃ reads plan, reads <+: [Git.statsWords, Git.diffWords] ∧
    Follows rules (course config reads plan) ran ∧
    (Settled config rules plan ∨ ∀ words ∈ ran, words ∈ (preparation config reads).map Step.words)

theorem Conducts.nothing : Conducts config rules [] :=
  ⟨[], ⟨"", "", "", none, false⟩, List.nil_prefix, .nil, .inr (by simp)⟩

theorem Prepares.conducts {deeds : List Event} {result : Except Failure Plan}
    (h : Prepares config rules deeds result) : Conducts config rules (commandsOf deeds) := by
  obtain ⟨reads, hreads, hfollows, -⟩ := h
  refine ⟨reads, ⟨"", "", "", none, false⟩, hreads, hfollows.extend, .inr fun words hwords => ?_⟩
  obtain ⟨step, hstep, rfl⟩ := hfollows.mem hwords
  exact List.mem_map_of_mem hstep

/-- Planning, and what the plan is for. -/
def work (config : Config) (testing : Bool) : Flow Unit := do
  let plan ← plan config testing
  if testing then Dialog.title plan.title else execute plan

/-- What is done once it has been said whether this is a test. -/
def committing (config : Config) (testing : Bool) : Flow Unit := do
  match ← obstacle? config with
  | some fault => Dialog.error fault
  | none =>
    if (← config.requiresScope) && config.usesPlaceholderScope then
      Dialog.warning
        s!"Scopes still use the default \"{placeholderScope}\" value - update config"
    work config testing

/-- All that comes before the work is notices. -/
theorem leadsTo_run (config : Config) (testing : Bool) :
    LeadsTo (run config testing) (work config testing) := by
  have hcommitting : LeadsTo (committing config testing) (work config testing) := by
    refine .afterNotes (.lift _) fun obstacle => ?_
    split
    · exact .notes (Dialog.onlyNotes_tell _)
    refine .afterNotes (.lift _) fun needsScope => ?_
    dsimp only
    split
    · exact .afterNotes (Dialog.onlyNotes_tell _) fun _ => .self _
    · exact .self _
  refine .afterNotes (Dialog.onlyNotes_tell _) fun _ => ?_
  cases testing with
  | true => exact .afterNotes (Dialog.onlyNotes_tell _) fun _ => hcommitting
  | false => exact hcommitting

/-- So what is done is done by the work. -/
theorem does_run_of_work {testing : Bool} {whole : List Event → Except Failure Unit → Prop}
    (hnothing : ∀ result, whole [] result) (hwork : Does rules (work config testing) whole) :
    Does rules (run config testing) whole := by
  intro before result after hrules hrun
  obtain ⟨middle, said, hadds, hnotices, hrest⟩ := leadsTo_run config testing _ _ _ hrun
  have hdid := hadds.did_of_spoken fun event hmem => Event.isSpoken_of_isNotice (hnotices event hmem)
  rcases hrest with rfl | hrest
  · exact ⟨[], hdid, hnothing result⟩
  · obtain ⟨deeds, hmore, hwhole⟩ := hwork _ _ _ (hdid.rules.trans hrules) hrest
    exact ⟨deeds, hdid.trans hmore, hwhole⟩

theorem does_run (config : Config) :
    Does rules (run config false) fun deeds _ => Conducts config rules (commandsOf deeds) := by
  refine does_run_of_work (fun _ => .nothing) ?_
  refine .bind does_plan (fun plan deeds hdeeds => ?_) fun _ _ hdeeds => hdeeds.conducts
  obtain ⟨reads, hreads, -, hplan⟩ := hdeeds
  obtain ⟨hdone, hsettled⟩ := hplan plan rfl
  refine (does_execute plan).mono fun more _ hmore => ?_
  rw [commandsOf_append]
  exact ⟨reads, plan, hreads, hdone.thenFollows hmore, .inl hsettled⟩

/-! ## What comes before a command -/

variable {reads : List (List String)} {plan : Plan} {step : Step}

theorem mem_preparation (hreads : reads <+: [Git.statsWords, Git.diffWords])
    (h : step ∈ preparation config reads) :
    step = .must Git.headWords ∨ step = .must Git.stageWords ∨
      step = .anyway Git.statsWords ∨ step = .anyway Git.diffWords := by
  rcases List.mem_append.mp h with h | h
  · rcases List.mem_cons.mp h with rfl | h
    · exact .inl rfl
    · split at h
      · exact .inr (.inl (List.mem_singleton.mp h))
      · cases h
  · obtain ⟨words, hwords, rfl⟩ := List.mem_map.mp h
    have hmem := hreads.subset hwords
    simp only [List.mem_cons, List.not_mem_nil, or_false] at hmem
    rcases hmem with rfl | rfl
    · exact .inr (.inr (.inl rfl))
    · exact .inr (.inr (.inr rfl))

theorem mem_changing (h : step ∈ changing plan) :
    (∃ change, plan.version = some change ∧ step = .must change.words) ∨ step = check := by
  rcases List.mem_append.mp h with h | h
  · obtain ⟨change, hchange, rfl⟩ := List.mem_map.mp h
    exact .inl ⟨change, Option.mem_toList.mp hchange, rfl⟩
  · exact .inr (List.mem_singleton.mp h)

theorem mem_closing (h : step ∈ closing plan) :
    step = .must (Git.pushWords plan.branch) ∨ step = .must Git.statusWords := by
  rcases List.mem_append.mp h with h | h
  · split at h
    · exact .inl (List.mem_singleton.mp h)
    · cases h
  · exact .inr (List.mem_singleton.mp h)

/-- All that is run before the commit is of another kind than what is run from there on. -/
theorem kind_beforeCommit (hreads : reads <+: [Git.statsWords, Git.diffWords])
    (h : step ∈ preparation config reads ++ changing plan) :
    step.words.take 2 ≠ ["git", "commit"] ∧ step.words.take 2 ≠ ["git", "push"] := by
  rcases List.mem_append.mp h with h | h
  · rcases mem_preparation hreads h with rfl | rfl | rfl | rfl <;> exact ⟨by decide, by decide⟩
  · rcases mem_changing h with ⟨change, -, rfl⟩ | rfl
    · have hkind : change.words.take 2 = ["npm", "version"] := rfl
      exact ⟨by simp [Step.must, hkind], by simp [Step.must, hkind]⟩
    · exact ⟨by decide, by decide⟩

/-- But for reading and checking, what the course goes on after has succeeded. -/
theorem must_of_mem (hreads : reads <+: [Git.statsWords, Git.diffWords])
    (h : step ∈ course config reads plan)
    (hwords : step.words ∉ [Git.statsWords, Git.diffWords, Git.checkWords]) :
    step = .must step.words := by
  rcases List.mem_append.mp h with h | h
  · rcases mem_preparation hreads h with rfl | rfl | rfl | rfl
    · rfl
    · rfl
    · simp [Step.anyway] at hwords
    · simp [Step.anyway] at hwords
  rcases List.mem_append.mp h with h | h
  · rcases mem_changing h with ⟨change, -, rfl⟩ | rfl
    · rfl
    · simp [check, Step.mustNot] at hwords
  rcases List.mem_cons.mp h with rfl | h
  · rfl
  · rcases mem_closing h with rfl | rfl <;> rfl

variable {ran before after : List (List String)} {words : List String}

/-- A plan that has come to the commit was settled, and what comes before the commit has passed. -/
theorem atCommit (hreads : reads <+: [Git.statsWords, Git.diffWords])
    (hfollows : Follows rules (course config reads plan) (before ++ words :: after))
    (hkind : words.take 2 = ["git", "commit"]) :
    words = Git.commitWords plan.title plan.description ∧
      ∀ step ∈ preparation config reads ++ changing plan,
        step.words ∈ before ∧ step.Passed rules := by
  have hcourse : course config reads plan =
      (preparation config reads ++ changing plan) ++ making plan :: closing plan := by
    rw [course, execution, List.append_assoc]
  rw [hcourse] at hfollows
  have hnew : words ∉ (preparation config reads ++ changing plan).map Step.words := by
    intro hmem
    obtain ⟨step, hstep, rfl⟩ := List.mem_map.mp hmem
    exact (kind_beforeCommit hreads hstep).1 hkind
  refine ⟨?_, fun step hstep => hfollows.earlier hnew hstep⟩
  obtain ⟨step, hstep, rfl⟩ := hfollows.mem_later hnew
  rcases List.mem_cons.mp hstep with rfl | hstep
  · rfl
  · rcases mem_closing hstep with rfl | rfl
    · exact absurd hkind (by simp [Step.must, Git.pushWords])
    · exact absurd hkind (by simp [Step.must, Git.statusWords])

theorem atPush (hreads : reads <+: [Git.statsWords, Git.diffWords])
    (hfollows : Follows rules (course config reads plan) (before ++ words :: after))
    (hkind : words.take 2 = ["git", "push"]) :
    words = Git.pushWords plan.branch ∧
      (making plan).words ∈ before ∧ (making plan).Passed rules := by
  have hcourse : course config reads plan =
      (preparation config reads ++ changing plan ++ [making plan]) ++ closing plan := by
    simp [course, execution]
  rw [hcourse] at hfollows
  have hnew :
      words ∉ (preparation config reads ++ changing plan ++ [making plan]).map Step.words := by
    intro hmem
    obtain ⟨step, hstep, rfl⟩ := List.mem_map.mp hmem
    rcases List.mem_append.mp hstep with hstep | hstep
    · exact (kind_beforeCommit hreads hstep).2 hkind
    · rw [List.mem_singleton.mp hstep] at hkind
      simp [making, Step.must, Git.commitWords] at hkind
  have hmaking := hfollows.earlier hnew
    (List.mem_append_right _ (List.mem_singleton_self (making plan)))
  refine ⟨?_, hmaking⟩
  obtain ⟨step, hstep, rfl⟩ := hfollows.mem_later hnew
  rcases mem_closing hstep with rfl | rfl
  · rfl
  · exact absurd hkind (by simp [Step.must, Git.statusWords])

/-! ## Order and guards -/

/-- A commit on its own: the title was accepted, and the body is left out or says something. -/
def IsCommit (config : Config) (words : List String) : Prop :=
  ∃ fields title body, words = ["git", "commit", "-m", title] ++ body ∧
    Title.Accepted config fields title ∧
    config.minLength ≤ title.length ∧ title.length ≤ config.maxLength ∧
    (body = [] ∨ ∃ description, body = ["-m", description] ∧ description ≠ "" ∧
      description.length ≤ maxDescriptionLength)

/-- What holds of the commands that a commit runs, in their order. -/
structure Orderly (config : Config) (rules : List CommandRule) (ran : List (List String)) :
    Prop where
  /-- They are the beginning of a course. -/
  order : ∃ reads plan, reads <+: [Git.statsWords, Git.diffWords] ∧
    ran <+: (course config reads plan).map Step.words
  /-- Something was staged before a commit is made. -/
  commits : ∀ before words after, ran = before ++ words :: after →
    words.take 2 = ["git", "commit"] → IsCommit config words ∧ Git.checkWords ∈ before ∧
      ∃ code, Exits rules Git.checkWords code ∧ code ≠ 0
  /-- A version that has to be changed has been changed before a commit is made. -/
  versions : ∀ before words after, ran = before ++ words :: after →
    words.take 2 = ["git", "commit"] → ∀ output, Answers rules Git.headWords output →
      config.versionPrompt (Text.strip output) = .required →
        ∃ change ∈ before, change.take 2 = ["npm", "version"] ∧ Exits rules change 0
  /-- What was committed is pushed, to the branch that was read. -/
  pushes : ∀ before words after, ran = before ++ words :: after →
    words.take 2 = ["git", "push"] →
      (∃ output, Answers rules Git.headWords output ∧
        words = Git.pushWords (Text.strip output)) ∧
      ∃ made ∈ before, made.take 2 = ["git", "commit"] ∧ Exits rules made 0
  /-- Nothing is run after a command that had to succeed and did not. -/
  stops : ∀ before words after, ran = before ++ words :: after →
    words ∉ [Git.statsWords, Git.diffWords, Git.checkWords] → ¬ Exits rules words 0 → after = []

theorem Settled.isCommit (h : Settled config rules plan) :
    IsCommit config (Git.commitWords plan.title plan.description) := by
  obtain ⟨fields, text, haccepted⟩ := h.title
  obtain ⟨hleast, hmost⟩ := Config.titleFault?_eq_none.mp (Config.accept_eq_ok_iff.mp haccepted).2
  refine ⟨fields, plan.title, _, rfl, ⟨text, haccepted⟩, hleast, hmost, ?_⟩
  by_cases hempty : plan.description.isEmpty
  · exact .inl (if_pos hempty)
  · refine .inr ⟨plan.description, if_neg hempty, ?_, h.description⟩
    rintro heq
    simp [heq] at hempty

theorem Conducts.orderly (h : Conducts config rules ran) : Orderly config rules ran := by
  obtain ⟨reads, plan, hreads, hfollows, hplan⟩ := h
  have hsettled {before after : List (List String)} {words : List String}
      (hran : ran = before ++ words :: after)
      (hkind : words.take 2 = ["git", "commit"] ∨ words.take 2 = ["git", "push"]) :
      Settled config rules plan := by
    rcases hplan with hplan | hprepares
    · exact hplan
    obtain ⟨step, hstep, rfl⟩ := List.mem_map.mp (hprepares words (by simp [hran]))
    have hother := kind_beforeCommit hreads (List.mem_append_left (changing plan) hstep)
    exact absurd hkind (not_or.mpr hother)
  refine ⟨⟨reads, plan, hreads, hfollows.begins⟩, ?_, ?_, ?_, ?_⟩
  · intro before words after hran hkind
    rw [hran] at hfollows
    obtain ⟨rfl, hpassed⟩ := atCommit hreads hfollows hkind
    obtain ⟨hmem, code, output, errors, hexits, hcode⟩ := hpassed check (by simp [changing])
    exact ⟨(hsettled hran (.inl hkind)).isCommit, hmem, code, ⟨output, errors, hexits⟩, hcode⟩
  · intro before words after hran hkind output houtput hprompt
    have hplan := hsettled hran (.inl hkind)
    obtain ⟨branchOutput, hbranchOutput, hbranch⟩ := hplan.branch
    rw [houtput.unique hbranchOutput, ← hbranch] at hprompt
    obtain ⟨change, hchange⟩ := Option.isSome_iff_exists.mp (hplan.version hprompt)
    rw [hran] at hfollows
    obtain ⟨hmem, hexits⟩ := (atCommit hreads hfollows hkind).2 (.must change.words)
      (by simp [changing, hchange])
    exact ⟨change.words, hmem, rfl, hexits⟩
  · intro before words after hran hkind
    obtain ⟨output, houtput, hbranch⟩ := (hsettled hran (.inr hkind)).branch
    rw [hran] at hfollows
    obtain ⟨rfl, hmade, hexits⟩ := atPush hreads hfollows hkind
    exact ⟨⟨output, houtput, by rw [hbranch]⟩, (making plan).words, hmade, rfl, hexits⟩
  · intro before words after hran hwords hfails
    by_contra hafter
    rw [hran] at hfollows
    obtain ⟨step, hstep, rfl, hpassed⟩ := hfollows.passed hafter
    rw [must_of_mem hreads hstep hwords] at hpassed
    exact hfails hpassed

theorem run_orderly (config : Config) (session : Session) :
    ∃ added, ((run config false).runOn session).2.events = session.events ++ added ∧
      Orderly config session.rules (commandsOf added) := by
  obtain ⟨deeds, hdid, hconducts⟩ :=
    does_run config session _ _ rfl (runs_runOn (run config false) session)
  obtain ⟨added, hadded, hcommands⟩ := hdid.commands
  exact ⟨added, hadded, hcommands ▸ hconducts.orderly⟩

end CommitStyle.Flow.Commit
