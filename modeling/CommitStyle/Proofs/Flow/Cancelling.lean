import CommitStyle.Proofs.Flow.Testing
import CommitStyle.Proofs.Session.Conversation

/-! What a commit leaves behind when the user breaks it off. All questions come before the
version is changed, the commit is made and pushed, and none of these steps can be broken
off itself. Only staging comes between two questions: after those for the fields, before
the title. So that is all that a run which was broken off can have changed, and only where
all changes are to be staged. -/

namespace CommitStyle

/-- The user broke a run off: with the interrupt key, or with no more lines. -/
def Failure.isCancel : Failure → Bool
  | .interrupted | .inputExhausted => true
  | _ => false

theorem mem_commandsOf {events : List Event} {words : List String} :
    words ∈ commandsOf events ↔ .command words ∈ events := by
  rw [commandsOf, List.mem_filterMap]
  constructor
  · rintro ⟨event, hmem, hwords⟩
    cases event with
    | command _ =>
      cases hwords
      exact hmem
    | _ => cases hwords
  · intro h
    exact ⟨_, h, rfl⟩

theorem not_command_of_spoken {events : List Event} (h : ∀ event ∈ events, event.isSpoken = true)
    (words : List String) : .command words ∉ events := by
  intro hmem
  cases h _ hmem

/-- What does not hold an event is over before it. -/
theorem prefix_of_not_mem {said more earlier later : List Event} {event : Event}
    (h : event ∉ said) (heq : said ++ more = earlier ++ event :: later) : said <+: earlier := by
  rcases List.append_eq_append_iff.mp heq with ⟨between, rfl, -⟩ | ⟨between, rfl, hrest⟩
  · exact List.prefix_append _ _
  · cases between with
    | nil => simp
    | cons first _ =>
      cases hrest
      exact absurd (by simp) h

namespace Flow

variable {α β : Type} {rules : List CommandRule} {config : Config} {testing : Bool}
  {before middle after session : Session}

/-! ## Steps that cannot be broken off -/

/-- However the flow fails, the user did not break it off. -/
abbrev Uncancelled (flow : Flow α) : Prop := Fails flow fun failure => failure.isCancel = false

theorem uncancelled_command (words : List String) : Uncancelled (Flow.command words) := by
  refine .andThen (.emit _) fun _ => .andThen .get fun session => ?_
  split
  · exact .throw rfl
  · exact .pure _

/-- How a flow fails is known beside what it does. -/
theorem Does.failing {flow : Flow α} {course : List Event → Except Failure α → Prop}
    {P : Failure → Prop} (h : Does rules flow course) (hfails : Fails flow P) :
    Does rules flow fun deeds result =>
      course deeds result ∧ ∀ failure, result = .error failure → P failure := by
  intro before result after hrules hrun
  obtain ⟨deeds, hdid, hcourse⟩ := h _ _ _ hrules hrun
  exact ⟨deeds, hdid, hcourse, fun failure hfailure => hfails _ _ _ (hfailure ▸ hrun)⟩

namespace Commit

/-- What is done once all is planned cannot be broken off. -/
theorem unattended_uncancelled : Unattended Uncancelled where
  pure a := .pure a
  bind hflow hnext := hflow.andThen hnext
  fail {_ failure} hinterrupted hexhausted := by
    refine .throw ?_
    cases failure with
    | interrupted => exact absurd rfl hinterrupted
    | inputExhausted => exact absurd rfl hexhausted
    | _ => rfl
  notice _ := .emit _
  log level text := .log level text
  command := uncancelled_command

/-! ## The commands -/

/-- What is run to stage all changes, where they are staged. -/
def staging (config : Config) (testing : Bool) : List (List String) :=
  if config.stageAllChanges && !testing then [Git.stageWords] else []

/-- The commands that are run while questions are asked. -/
def OnlyPrepares (config : Config) (testing : Bool) (ran : List (List String)) : Prop :=
  ∃ reads, reads <+: [Git.statsWords, Git.diffWords] ∧
    ran <+: Git.headWords :: (staging config testing ++ reads)

theorem words_preparation (reads : List (List String)) :
    (preparation config reads).map Step.words =
      Git.headWords :: (staging config false ++ reads) := by
  unfold preparation opening staging
  rw [Bool.not_false, Bool.and_true]
  split <;> simp [Function.comp_def, Step.must, Step.anyway]

theorem onlyPrepares_testing {ran : List (List String)} (h : ran <+: testWords) :
    OnlyPrepares config true ran := by
  refine ⟨[Git.statsWords, Git.diffWords], List.prefix_rfl, ?_⟩
  rwa [staging, Bool.not_true, Bool.and_false, if_neg Bool.false_ne_true]

theorem does_run_cancelled :
    Does rules (run config testing) fun deeds result => ∀ failure, result = .error failure →
      failure.isCancel = true → OnlyPrepares config testing (commandsOf deeds) := by
  refine does_run_of_work (fun _ _ _ _ => ⟨[], List.nil_prefix, List.nil_prefix⟩) ?_
  cases testing with
  | true =>
    refine .bind does_plan_testing (fun plan deeds hdeeds => ?_)
      fun _ _ hdeeds _ _ _ => onlyPrepares_testing hdeeds
    refine .talk (.emit rfl) fun _ _ _ _ => onlyPrepares_testing ?_
    rwa [List.append_nil]
  | false =>
    refine .bind does_plan (fun plan deeds _ => ?_) ?_
    · refine ((does_execute plan).failing (unattended_uncancelled.execute plan)).mono ?_
      rintro more result ⟨-, hfails⟩ failure hfailure hcancel
      rw [hfails failure hfailure] at hcancel
      cases hcancel
    · rintro failure deeds ⟨reads, hreads, hfollows, -⟩ _ _ _
      exact ⟨reads, hreads, words_preparation reads ▸ hfollows.begins⟩

/-! ## The questions before staging -/

/-- Each of these fields has been asked for. -/
def Asked (labels : List String) (events : List Event) : Prop :=
  ∀ label ∈ labels, ∃ question, Dialog.textPrompt s!"{label}?" none = .ok question ∧
    question ∈ questionsOf events

theorem Asked.mono {labels : List String} {events others : List Event} (h : Asked labels events)
    (hsub : ∀ event ∈ events, event ∈ others) : Asked labels others := by
  intro label hlabel
  obtain ⟨question, hprompt, hasked⟩ := h label hlabel
  obtain ⟨event, hmem, hquestion⟩ := List.mem_filterMap.mp hasked
  exact ⟨question, hprompt, List.mem_filterMap.mpr ⟨event, hsub event hmem, hquestion⟩⟩

/-- A text that is given was asked for. -/
theorem asked_of_askText {message value : String} {judge : Dialog.Judge String String}
    (hnotes : ∀ answer, OnlyNotes (judge answer))
    (h : Runs (Dialog.askText message judge none) before (.ok value) after) :
    ∃ added question, Adds before after added ∧ (∀ event ∈ added, event.isSpoken = true) ∧
      Dialog.textPrompt message none = .ok question ∧ question ∈ questionsOf added := by
  cases hprompt : Dialog.textPrompt message none with
  | error failure =>
    obtain ⟨_, hshown, -⟩ := runs_liftThen h
    cases hprompt.symm.trans hshown
  | ok question =>
    have hasks : Asks question (Dialog.askText message judge none) fun line made =>
        ∃ answer, Dialog.typedText none line = some answer ∧ True :=
      Dialog.asks_askText hprompt hnotes fun _ _ _ _ _ _ _ => trivial
    obtain ⟨added, hadds, hspoken, hanswered⟩ := hasks _ _ _ h
    obtain ⟨line, hlast, -⟩ := hanswered value rfl
    exact ⟨added, question, hadds, hspoken, rfl,
      (List.of_mem_zip (List.mem_of_getLast? hlast)).1⟩

theorem asked_of_askFields {pattern : Option Pattern} {inBranch : Bool} {fields : Entries String}
    (h : Runs (Selection.askFields pattern inBranch) before (.ok fields) after) :
    ∃ added, Adds before after added ∧ (∀ event ∈ added, event.isSpoken = true) ∧
      Asked ((pattern.map Pattern.fields).getD []) added := by
  unfold Selection.askFields at h
  dsimp only at h
  generalize (pattern.map Pattern.fields).getD [] = labels at h ⊢
  induction labels generalizing before fields with
  | nil =>
    obtain ⟨-, rfl⟩ := runs_pure.mp h
    exact ⟨[], .refl _, by simp, by simp [Asked]⟩
  | cons label rest ih =>
    rw [List.mapM_cons] at h
    obtain ⟨entry, middle, hfirst, hrest⟩ := runs_bind_ok h
    obtain ⟨others, last, hothers, hdone⟩ := runs_bind_ok hrest
    obtain ⟨-, rfl⟩ := runs_pure.mp hdone
    obtain ⟨value, settled, hvalue, hpair⟩ := runs_bind_ok hfirst
    obtain ⟨-, rfl⟩ := runs_pure.mp hpair
    obtain ⟨added, question, hadds, hspoken, hprompt, hasked⟩ :=
      asked_of_askText (Dialog.onlyNotes_refusing _) hvalue
    obtain ⟨more, hmore, hmoreSpoken, hmoreAsked⟩ := ih hothers
    refine ⟨added ++ more, hadds.trans hmore, fun event hmem => ?_, fun other hother => ?_⟩
    · rcases List.mem_append.mp hmem with hmem | hmem
      · exact hspoken event hmem
      · exact hmoreSpoken event hmem
    · rcases List.mem_cons.mp hother with rfl | hother
      · exact ⟨question, hprompt, by simp [hasked]⟩
      · exact hmoreAsked.mono (fun event hmem => List.mem_append_right _ hmem) other hother

/-- The fields have been asked for, and nothing has been staged. -/
def FieldsAsked (config : Config) (said : List Event) : Prop :=
  .command Git.stageWords ∉ said ∧ ∀ pattern, config.commitPattern = .ok pattern →
    Asked ((pattern.map Pattern.fields).getD []) said

/-- Nothing is staged before the fields have been asked for. -/
def StagesLate (config : Config) (added : List Event) : Prop :=
  .command Git.stageWords ∉ added ∨ ∃ said, said <+: added ∧ FieldsAsked config said

/-- Reading the branch stages nothing. -/
theorem quiet_of_currentBranch {result : Except Failure String}
    (h : Runs Git.currentBranch before result after) :
    ∃ added, Adds before after added ∧ .command Git.stageWords ∉ added := by
  obtain ⟨added, hadds, -⟩ := Git.onlyLocal_currentBranch _ _ _ h
  obtain ⟨deeds, hdid, hdeeds, -⟩ := does_currentBranch _ _ _ rfl h
  refine ⟨added, hadds, fun hmem => ?_⟩
  have hwords := mem_commandsOf.mpr hmem
  rw [hadds.commands hdid, hdeeds] at hwords
  exact absurd hwords (by decide)

theorem FieldsAsked.append {said more : List Event} (h : FieldsAsked config more)
    (hsaid : .command Git.stageWords ∉ said) : FieldsAsked config (said ++ more) := by
  refine ⟨fun hmem => ?_, fun pattern hpattern => ?_⟩
  · rcases List.mem_append.mp hmem with hmem | hmem
    · exact hsaid hmem
    · exact h.1 hmem
  · exact (h.2 pattern hpattern).mono fun event hmem => List.mem_append_right _ hmem

/-- What is said before and is no staging makes no difference. -/
theorem StagesLate.append {said more : List Event} (h : StagesLate config more)
    (hsaid : .command Git.stageWords ∉ said) : StagesLate config (said ++ more) := by
  rcases h with hnone | ⟨asked, hbegins, hasked⟩
  · refine .inl fun hmem => ?_
    rcases List.mem_append.mp hmem with hmem | hmem
    · exact hsaid hmem
    · exact hnone hmem
  · exact .inr ⟨said ++ asked, List.prefix_append_right_inj said |>.mpr hbegins,
      hasked.append hsaid⟩

theorem does_settleStaged (branch : String) (fields : Entries String) :
    Does rules (if config.stageAllChanges && !testing
      then Git.stageAll >>= fun _ => settle config branch fields
      else settle config branch fields) fun _ _ => True := by
  have hsettle : Does rules (settle config branch fields) fun _ _ => True :=
    (does_settle_reading branch fields).mono fun _ _ _ => trivial
  split
  · exact .bind does_stageAll (fun _ _ _ => hsettle) fun _ _ _ => trivial
  · exact hsettle

/-- A plan is made after the fields have been asked for, and staging comes after that. -/
theorem stagesLate_plan {result : Except Failure Plan}
    (h : Runs (plan config testing) before result after) :
    ∃ added, after.events = before.events ++ added ∧ StagesLate config added ∧
      ∀ made, result = .ok made → ∃ said, said <+: added ∧ FieldsAsked config said := by
  rcases runs_bind.mp h with ⟨branch, first, hbranch, hrest⟩ | ⟨failure, hbranch, rfl⟩
  swap
  · obtain ⟨added, hadds, hquiet⟩ := quiet_of_currentBranch hbranch
    exact ⟨added, hadds.events, .inl hquiet, by simp⟩
  obtain ⟨read, hread, hquiet⟩ := quiet_of_currentBranch hbranch
  rcases runs_bind.mp hrest with ⟨pattern, second, hpattern, hasking⟩ | ⟨failure, hpattern, rfl⟩
  swap
  · obtain ⟨-, rfl⟩ := runs_lift.mp hpattern
    exact ⟨read, hread.events, .inl hquiet, by simp⟩
  obtain ⟨hvalue, rfl⟩ := runs_lift.mp hpattern
  rcases runs_bind.mp hasking with ⟨fields, third, hfields, hlast⟩ | ⟨failure, hfields, rfl⟩
  swap
  · obtain ⟨said, hadds, hspoken⟩ := Selection.onlyConverses_askFields _ _ _ _ _ hfields
    have hnone : StagesLate config said := .inl (not_command_of_spoken hspoken _)
    exact ⟨read ++ said, (hread.trans hadds).events, hnone.append hquiet, by simp⟩
  obtain ⟨said, hadds, hspoken, hasked⟩ := asked_of_askFields hfields
  have hall : FieldsAsked config (read ++ said) := by
    refine FieldsAsked.append ⟨not_command_of_spoken hspoken _, fun other hother => ?_⟩ hquiet
    cases hvalue.trans hother
    exact hasked
  obtain ⟨deeds, hdid, -⟩ := does_settleStaged branch fields _ _ _ rfl hlast
  obtain ⟨more, hmore, -⟩ := hdid.events
  have hbegins : read ++ said <+: read ++ said ++ more := List.prefix_append _ _
  refine ⟨read ++ said ++ more, ?_, .inr ⟨_, hbegins, hall⟩, fun _ _ => ⟨_, hbegins, hall⟩⟩
  rw [hmore, (hread.trans hadds).events, List.append_assoc]

theorem stagesLate_work {result : Except Failure Unit}
    (h : Runs (work config testing) before result after) :
    ∃ added, after.events = before.events ++ added ∧ StagesLate config added := by
  rcases runs_bind.mp h with ⟨made, middle, hplan, hrest⟩ | ⟨failure, hplan, -⟩
  · obtain ⟨added, hadded, -, hmade⟩ := stagesLate_plan hplan
    obtain ⟨said, hbegins, hasked⟩ := hmade made rfl
    have hdoes : Does middle.rules (if testing then Dialog.title made.title else execute made)
        fun _ _ => True := by
      split
      · exact .talk (.emit rfl) fun _ => trivial
      · exact (does_execute made).mono fun _ _ _ => trivial
    obtain ⟨deeds, hdid, -⟩ := hdoes _ _ _ rfl hrest
    obtain ⟨more, hmore, -⟩ := hdid.events
    refine ⟨added ++ more, by rw [hmore, hadded, List.append_assoc], .inr ⟨said, ?_, hasked⟩⟩
    exact hbegins.trans (List.prefix_append _ _)
  · obtain ⟨added, hadded, hlate, -⟩ := stagesLate_plan hplan
    exact ⟨added, hadded, hlate⟩

theorem stagesLate_run {result : Except Failure Unit}
    (h : Runs (run config testing) before result after) :
    ∃ added, after.events = before.events ++ added ∧ StagesLate config added := by
  obtain ⟨middle, said, hadds, hnotices, hrest⟩ := leadsTo_run config testing _ _ _ h
  have hquiet : .command Git.stageWords ∉ said := not_command_of_spoken
    (fun event hmem => Event.isSpoken_of_isNotice (hnotices event hmem)) _
  rcases hrest with rfl | hrest
  · exact ⟨said, hadds.events, .inl hquiet⟩
  · obtain ⟨added, hadded, hlate⟩ := stagesLate_work hrest
    refine ⟨said ++ added, ?_, hlate.append hquiet⟩
    rw [hadded, hadds.events, List.append_assoc]

/-! ## Breaking a commit off -/

/-- The commands that change the repository: they stage, change the version, commit or push. -/
def alters (words : List String) : Bool :=
  [["git", "add"], ["npm", "version"], ["git", "commit"], ["git", "push"]].contains (words.take 2)

/-- What a commit has done that was broken off. -/
structure BrokenOff (config : Config) (testing : Bool) (added : List Event) : Prop where
  /-- It was preparing. -/
  prepares : OnlyPrepares config testing (commandsOf added)
  /-- It has changed nothing, or staged all changes as it was set to. -/
  alters : ∀ words ∈ commandsOf added, alters words = true →
    words = Git.stageWords ∧ config.stageAllChanges = true ∧ testing = false
  /-- Before it staged them, each field had been asked for. -/
  fields : ∀ earlier later, added = earlier ++ .command Git.stageWords :: later →
    ∀ pattern, config.commitPattern = .ok pattern →
      Asked ((pattern.map Pattern.fields).getD []) earlier

theorem mem_staging {words : List String} (h : words ∈ staging config testing) :
    words = Git.stageWords ∧ config.stageAllChanges = true ∧ testing = false := by
  unfold staging at h
  split at h
  · rename_i hstage
    rw [Bool.and_eq_true, Bool.not_eq_true'] at hstage
    exact ⟨List.mem_singleton.mp h, hstage⟩
  · cases h

theorem OnlyPrepares.alters {ran : List (List String)} (h : OnlyPrepares config testing ran)
    {words : List String} (hmem : words ∈ ran) (halters : alters words = true) :
    words = Git.stageWords ∧ config.stageAllChanges = true ∧ testing = false := by
  obtain ⟨reads, hreads, hbegins⟩ := h
  rcases List.mem_cons.mp (hbegins.subset hmem) with rfl | hmem
  · exact absurd halters (by decide)
  rcases List.mem_append.mp hmem with hmem | hmem
  · exact mem_staging hmem
  · have hread := hreads.subset hmem
    exact absurd halters ((by decide : ∀ words ∈ [Git.statsWords, Git.diffWords],
      ¬ Commit.alters words = true) words hread)

theorem StagesLate.asked {added earlier later : List Event} {pattern : Option Pattern}
    (h : StagesLate config added) (hadded : added = earlier ++ .command Git.stageWords :: later)
    (hpattern : config.commitPattern = .ok pattern) :
    Asked ((pattern.map Pattern.fields).getD []) earlier := by
  rcases h with hnone | ⟨said, ⟨more, rfl⟩, hquiet, hasked⟩
  · exact absurd (by simp [hadded]) hnone
  · exact (hasked pattern hpattern).mono (prefix_of_not_mem hquiet hadded).subset

/-- **A commit that is broken off has staged all changes at most.** It has changed no version, has
committed and pushed nothing, and has not staged anything before all fields were asked for. -/
theorem run_cancelled {failure : Failure}
    (hrun : Runs (run config testing) session (.error failure) after)
    (hcancel : failure.isCancel = true) :
    after.files = session.files ∧
      ∃ added, after.events = session.events ++ added ∧ BrokenOff config testing added := by
  obtain ⟨deeds, hdid, hdeeds⟩ := does_run_cancelled _ _ _ rfl hrun
  obtain ⟨added, hadded, hcommands⟩ := hdid.commands
  obtain ⟨others, hothers, hlate⟩ := stagesLate_run hrun
  obtain rfl := List.append_cancel_left (hadded.symm.trans hothers)
  have hprepares := hdeeds failure rfl hcancel
  rw [← hcommands] at hprepares
  refine ⟨hdid.files, added, hadded, hprepares, fun words hmem halters => ?_,
    fun earlier later heq pattern hpattern => hlate.asked heq hpattern⟩
  exact hprepares.alters hmem halters

/-- Settings by which all changes are staged. -/
def stagingConfig : Config := { stageAllChanges := true }

/-- The user presses the interrupt key when asked for the type of the changes. -/
def interruptedSession : Session := { input := [none] }

/-- The failure is that of an interrupt. -/
def isInterrupt {α : Type} : Except Failure α → Bool
  | .error .interrupted => true
  | _ => false

theorem eq_of_isInterrupt {α : Type} {result : Except Failure α} (h : isInterrupt result = true) :
    result = .error .interrupted := by
  unfold isInterrupt at h
  split at h
  · rfl
  · cases h

/-- The notice and the list can be shown, so their tags need not be looked at. -/
theorem staged_interrupted :
    isInterrupt ((run stagingConfig false).runOn interruptedSession).1 = true ∧
      Git.stageWords ∈ commandsOf ((run stagingConfig false).runOn interruptedSession).2.events := by
  have hinfo := Dialog.info_untagged (by decide : '[' ∉ "New commit".toList)
  have htypes : Selection.chooseType stagingConfig "Type of changes" = _ :=
    Dialog.choose_listed (by decide) (by decide) none
  simp only [run, plan, Title.choose, Title.writeOwn, hinfo, htypes]
  decide +kernel

theorem run_interrupted : Runs (run stagingConfig false) interruptedSession (.error .interrupted)
    ((run stagingConfig false).runOn interruptedSession).2 :=
  runs_of_result (eq_of_isInterrupt staged_interrupted.1)

theorem run_cancelled_staging :
    ∃ after, Runs (run stagingConfig false) interruptedSession (.error .interrupted) after ∧
      Failure.interrupted.isCancel = true ∧ after.files = interruptedSession.files ∧
      ∃ added, after.events = interruptedSession.events ++ added ∧
        BrokenOff stagingConfig false added :=
  ⟨_, run_interrupted, rfl, run_cancelled run_interrupted rfl⟩

/-- Breaking off can leave changes staged. -/
theorem run_cancelled_staged :
    ∃ failure after, Runs (run stagingConfig false) interruptedSession (.error failure) after ∧
      failure.isCancel = true ∧ ∃ words ∈ commandsOf after.events, alters words = true :=
  ⟨_, _, run_interrupted, rfl, Git.stageWords, staged_interrupted.2, rfl⟩

end Commit

end Flow

end CommitStyle
