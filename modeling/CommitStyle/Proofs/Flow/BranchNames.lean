import CommitStyle.Flow.Branch
import CommitStyle.Proofs.Entries
import CommitStyle.Proofs.Flow.Courses
import CommitStyle.Proofs.Pattern.BranchText

/-! The names of new branches. Every answer that goes into a name is plain by the time
it gets there: the vocabulary is, and a description or a field is asked for until
its slug says something. So the name is safe, and it is looked up before a branch of that
name is made. -/

namespace CommitStyle.Flow.Branch

variable {config : Config} {rules : List CommandRule}

/-! ## The answers -/

/-- The fields that were asked for, each with a value that leaves something in the name. -/
def Filled (labels : List String) (fields : Entries String) : Prop :=
  List.Forall₂ (fun label entry => entry.1 = label ∧ (Slug.sanitize entry.2 true).isEmpty = false)
    labels fields

theorem gives_askFields (pattern : Option Pattern) :
    Gives (Selection.askFields pattern true) (Filled ((pattern.map Pattern.fields).getD [])) := by
  refine .mapM fun label => .bind (Dialog.gives_askText (Dialog.gives_refusing _) none) ?_
  intro value hfault
  refine .pure ⟨rfl, ?_⟩
  rw [Option.map_eq_none_iff] at hfault
  unfold Answer.fieldFault? at hfault
  split at hfault
  · cases hfault
  split at hfault
  · cases hfault
  · rename_i hslug
    simpa using hslug

theorem Filled.get? {labels : List String} {fields : Entries String} (h : Filled labels fields)
    {label : String} (hlabel : label ∈ labels) : ∃ value, fields.get? label = some value ∧
      (Slug.sanitize value true).isEmpty = false := by
  induction h with
  | nil => cases hlabel
  | @cons first entry _ _ hentry _ ih =>
    obtain ⟨rfl, hslug⟩ := hentry
    rw [Entries.get?_cons]
    by_cases heq : entry.1 = label
    · exact ⟨entry.2, if_pos heq, hslug⟩
    · rw [if_neg heq]
      exact ih ((List.mem_cons.mp hlabel).resolve_left (Ne.symm heq))

theorem Filled.isPart_fieldValue {labels : List String} {values : Values}
    (h : Filled labels values.fields) {label : String} (hlabel : label ∈ labels) :
    Text.IsPart (fieldValue .branch values label).toList := by
  obtain ⟨value, hvalue, hslug⟩ := h.get? hlabel
  rw [fieldValue, hvalue]
  exact Slug.isPart_sanitize hslug

/-- A vocabulary of plain words. -/
def PlainWords (choices : List Choice) : Prop := ∀ choice ∈ choices, Text.IsPart choice.value.toList

instance (choices : List Choice) : Decidable (PlainWords choices) :=
  List.decidableBAll (fun choice : Choice => Text.IsPart choice.value.toList) choices

theorem gives_chooseWord {choices : List Choice} (h : PlainWords choices) (message : String) :
    Gives (Dialog.choose message (Selection.listed choices)) fun word =>
      Text.IsPart word.toList := by
  intro before word after hrun
  obtain ⟨entry, hentry, rfl⟩ := Dialog.gives_choose _ _ _ _ _ _ hrun
  obtain ⟨choice, hchoice, rfl⟩ := List.mem_map.mp hentry
  exact h choice hchoice

theorem gives_chooseScope {needsScope : Bool} (h : PlainWords config.scopes) :
    Gives (Selection.chooseScope? config needsScope) fun scope? =>
      needsScope = true → Text.IsPart (scope?.getD "").toList := by
  unfold Selection.chooseScope?
  split
  · exact .bind (gives_chooseWord h _) fun scope hscope => .pure fun _ => hscope
  · rename_i hno
    exact .pure fun hyes => absurd hyes hno

theorem isPart_description {text : String} {most : Int}
    (h : Answer.branchDescriptionFault? text most = none) :
    Text.IsPart (Slug.sanitize text false).toList := by
  unfold Answer.branchDescriptionFault? at h
  split at h
  · cases h
  split at h
  · cases h
  split at h
  · cases h
  · rename_i hslug
    exact Slug.isPart_sanitize (by simpa using hslug)

/-! ## The name -/

/-- A pattern that stands in nobody's way was checked. -/
theorem pattern_of_obstacle? (hcustom : config.branchFormat.isCustom = true)
    (hobstacle : obstacle? config = .ok none) :
    ∃ source, Pattern.fault? source .branch = none ∧
      config.branchPattern = .ok (some (Pattern.compile source)) := by
  unfold obstacle? at hobstacle
  extract_lets rest at hobstacle
  rw [if_pos hcustom] at hobstacle
  obtain ⟨fault?, hfault, hrest⟩ := Success.bind_eq_ok.mp hobstacle
  cases fault? with
  | some fault => cases hrest
  | none =>
    unfold patternFaultOf at hfault
    split at hfault
    · cases hfault
    rename_i htruthy
    split at hfault
    · rename_i source hsource
      rw [Config.branchPattern, if_pos hcustom, hsource, patternOf, if_neg (hsource ▸ htruthy)]
      exact ⟨source.toString, Except.ok.inj hfault, rfl⟩
    · cases hfault

/-- Without an obstacle plain values make a safe name. -/
theorem safeName_compose {pattern : Option Pattern} {hasScope : Bool} {values : Values}
    {name : String} (hobstacle : obstacle? config = .ok none)
    (hpattern : config.branchPattern = .ok pattern)
    (hscope : config.branchRequiresScope = .ok hasScope)
    (hvalues : PlainValues hasScope ((pattern.map Pattern.fields).getD []) values)
    (h : config.branchFormat.compose pattern values = .ok name) : SafeName name.toList := by
  by_cases hcustom : config.branchFormat.isCustom = true
  · obtain ⟨source, hfault, hchecked⟩ := pattern_of_obstacle? hcustom hobstacle
    rw [Config.branchRequiresScope, if_pos hcustom, hchecked] at hscope
    rw [hchecked] at hpattern
    cases hpattern
    cases hscope
    cases hformat : config.branchFormat with
    | custom =>
      rw [hformat] at h
      exact Pattern.safeName_render hfault hvalues h
    | typeDescription | typeScopeDescription =>
      rw [hformat] at hcustom
      cases hcustom
  · rw [Config.branchRequiresScope, if_neg hcustom] at hscope
    cases hscope
    refine BranchFormat.safeName_compose ?_ hvalues h
    intro hformat
    exact hcustom (by rw [hformat]; rfl)

theorem gives_plan (hobstacle : obstacle? config = .ok none) (htypes : PlainWords config.types)
    (hscopes : PlainWords config.scopes) (testing : Bool) :
    Gives (plan config testing) fun plan => SafeName plan.name.toList := by
  refine .bind (.lift _) fun pattern hpattern => ?_
  refine .bind (gives_askFields pattern) fun fields hfields => ?_
  refine .bind (gives_chooseWord htypes _) fun type htype => ?_
  refine .bind (.lift _) fun hasScope hscope => ?_
  refine .bind (gives_chooseScope hscopes) fun scope? hscope? => ?_
  refine .bind (Dialog.gives_askText (Dialog.gives_refusing _) none) fun description hfault => ?_
  rw [Option.map_eq_none_iff] at hfault
  have hname (checkout : Bool) : Gives (do
      let values : Values := { type, description, scope := scope?, fields }
      return { name := ← config.branchFormat.compose pattern values, checkout })
      fun plan : Plan => SafeName plan.name.toList := by
    refine .bind (.lift _) fun name hname => .pure ?_
    exact safeName_compose hobstacle hpattern hscope
      ⟨htype, hscope?, isPart_description hfault, fun _ => hfields.isPart_fieldValue⟩ hname
  dsimp only
  split
  · exact .last fun _ => hname _
  · exact .last fun _ => hname _

theorem onlyConverses_plan (config : Config) (testing : Bool) :
    OnlyConverses (plan config testing) := by
  refine .bind (.lift _) fun pattern => ?_
  refine .bind (Selection.onlyConverses_askFields _ _) fun fields => ?_
  refine .bind (Dialog.onlyConverses_choose _ _ _) fun type => .bind (.lift _) fun hasScope => ?_
  refine .bind (Selection.onlyConverses_chooseScope? _ _) fun scope? => ?_
  refine .bind (Dialog.onlyConverses_askText _ (Dialog.onlyNotes_refusing _) _)
    fun description => ?_
  dsimp only
  split
  · exact .bind (.pure _) fun _ => .bind (.lift _) fun _ => .pure _
  · exact .bind (Dialog.onlyConverses_confirm _ _) fun _ => .bind (.lift _) fun _ => .pure _

/-! ## The commands -/

/-- A look at whether there is a branch of that name. -/
def lookupWords (name : String) : List String :=
  ["git", "show-ref", "--verify", "--quiet", "refs/heads/" ++ name]

/-- Making a branch, with or without switching to it. -/
def makingWords (plan : Plan) : List String :=
  if plan.checkout then ["git", "checkout", "-b", plan.name] else ["git", "branch", plan.name]

/-- The look has to fail. -/
def course (plan : Plan) : List Step :=
  [.mustNot (lookupWords plan.name), .must (makingWords plan), .must Git.statusWords]

theorem does_execute (plan : Plan) :
    Does rules (execute plan) fun deeds _ => Follows rules (course plan) (commandsOf deeds) := by
  unfold execute Git.branchExists
  rw [bind_assoc]
  refine does_mustNot _ (fun output errors => ?_) fun code output errors hcode => ?_
  · simp only [pure_bind, beq_self_eq_true, if_true]
    exact Dialog.onlyTalks_tell _
  have hmissing : (code == 0) = false := beq_eq_false_iff_ne.mpr hcode
  simp only [pure_bind, hmissing]
  refine does_runThen _ _ fun output => does_afterTalk (Dialog.onlyTalks_tell _) fun _ => ?_
  refine does_afterTalk (Dialog.onlyNotes_output _).converses.talks fun _ => ?_
  refine does_runThen _ _ fun status => ?_
  exact .talk (Dialog.onlyNotes_output _).converses.talks fun _ => .nil

/-- A run follows the course of a plan with a safe name, or stops on the way. -/
def Branches (rules : List CommandRule) (ran : List (List String)) : Prop :=
  ∃ plan : Plan, SafeName plan.name.toList ∧ Follows rules (course plan) ran

/-- What is run once the notices are given. -/
def branching (config : Config) (testing : Bool) : Flow Unit := do
  match ← obstacle? config with
  | some fault => Dialog.error fault
  | none =>
    let plan ← plan config testing
    if testing then Dialog.title plan.name "Branch name" else execute plan

theorem does_branching (htypes : PlainWords config.types) (hscopes : PlainWords config.scopes)
    (testing : Bool) : Does rules (branching config testing) fun deeds _ =>
      Branches rules (commandsOf deeds) := by
  have hnothing : Branches rules (commandsOf []) := ⟨⟨"", true⟩, .nil, .nil⟩
  refine .afterTalk (.lift _) (.lift _) (fun obstacle hobstacle => ?_) fun _ => hnothing
  cases obstacle with
  | some fault => exact .talk (Dialog.onlyTalks_tell _) fun _ => hnothing
  | none =>
    refine .afterTalk (onlyConverses_plan config testing).talks
      (gives_plan hobstacle htypes hscopes testing) (fun plan hsafe => ?_) fun _ => hnothing
    split
    · exact .talk (.emit rfl) fun _ => hnothing
    · exact (does_execute plan).mono fun deeds _ hdeeds => ⟨plan, hsafe, hdeeds⟩

theorem does_run (htypes : PlainWords config.types) (hscopes : PlainWords config.scopes)
    (testing : Bool) : Does rules (run config testing) fun deeds _ =>
      Branches rules (commandsOf deeds) := by
  have hnothing : Branches rules (commandsOf []) := ⟨⟨"", true⟩, .nil, .nil⟩
  have hwork (testing : Bool) : Does rules (branching config testing) _ :=
    does_branching htypes hscopes testing
  refine .afterAnyTalk (Dialog.onlyTalks_tell _) (fun _ => ?_) fun _ => hnothing
  cases testing with
  | true =>
    exact .afterAnyTalk (Dialog.onlyTalks_tell _) (fun _ => hwork true) fun _ => hnothing
  | false => exact hwork false

/-! ## Safety -/

/-- The command makes a branch of that name. -/
def Makes (words : List String) (name : String) : Prop :=
  words = ["git", "checkout", "-b", name] ∨ words = ["git", "branch", name]

/-- What holds of the commands of a run that may make a branch. -/
structure Guarded (rules : List CommandRule) (ran : List (List String)) : Prop where
  safe : ∀ words ∈ ran, ∀ name, Makes words name → SafeName name.toList
  /-- No second branch is made. -/
  once : ∀ before words after, ran = before ++ words :: after → ∀ name, Makes words name →
    ∀ other ∈ before ++ after, ∀ otherName, ¬ Makes other otherName
  /-- It was looked up whether there is such a branch, and there was none. -/
  missing : ∀ before words after, ran = before ++ words :: after → ∀ name, Makes words name →
    lookupWords name ∈ before ∧ ∃ code, Exits rules (lookupWords name) code ∧ code ≠ 0

theorem eq_of_makes {plan : Plan} {words : List String} {name : String}
    (hwords : words ∈ (course plan).map Step.words) (h : Makes words name) :
    words = makingWords plan ∧ name = plan.name := by
  have hother (rest : List String) (second : String) (hcheckout : second ≠ "checkout")
      (hbranch : second ≠ "branch") : ¬ Makes ("git" :: second :: rest) name := by
    rintro (heq | heq)
    · simp [hcheckout] at heq
    · simp [hbranch] at heq
  simp only [course, List.map_cons, List.map_nil, List.mem_cons, List.not_mem_nil,
    or_false] at hwords
  rcases hwords with rfl | rfl | rfl
  · exact absurd h (hother _ _ (by decide) (by decide))
  · refine ⟨rfl, ?_⟩
    dsimp only [Step.must, makingWords] at h
    split at h
    · rcases h with heq | heq
      · simpa using heq.symm
      · simp at heq
    · rcases h with heq | heq
      · simp at heq
      · simpa using heq.symm
  · exact absurd h (hother _ _ (by decide) (by decide))

theorem nodup_course (plan : Plan) : ((course plan).map Step.words).Nodup := by
  cases hcheckout : plan.checkout <;>
    simp [course, Step.mustNot, Step.must, lookupWords, makingWords, Git.statusWords, hcheckout]

theorem guarded_of_follows {plan : Plan} {ran : List (List String)}
    (hsafe : SafeName plan.name.toList) (h : Follows rules (course plan) ran) :
    Guarded rules ran := by
  have hbegins := h.begins
  refine ⟨fun words hwords name hmakes => ?_, ?_, ?_⟩
  · obtain ⟨-, rfl⟩ := eq_of_makes (hbegins.subset hwords) hmakes
    exact hsafe
  · rintro before words after rfl name hmakes other hother otherName hmakesOther
    obtain ⟨rfl, -⟩ := eq_of_makes (hbegins.subset (by simp)) hmakes
    obtain ⟨rfl, -⟩ := eq_of_makes (hbegins.subset (List.mem_append.mpr
      ((List.mem_append.mp hother).imp id (List.mem_cons_of_mem _)))) hmakesOther
    have hnodup := (nodup_course plan).sublist hbegins.sublist
    exact (List.nodup_middle.mp hnodup).notMem hother
  · rintro before words after rfl name hmakes
    obtain ⟨rfl, rfl⟩ := eq_of_makes (hbegins.subset (by simp)) hmakes
    have hlook : Follows rules ([.mustNot (lookupWords plan.name)] ++
        [.must (makingWords plan), .must Git.statusWords])
        (before ++ makingWords plan :: after) := h
    have hnew : makingWords plan ∉ [Step.mustNot (lookupWords plan.name)].map Step.words := by
      intro hmem
      have hfirst := (List.nodup_cons.mp (nodup_course plan)).1
      exact hfirst (List.mem_singleton.mp hmem ▸ List.mem_cons_self)
    obtain ⟨hlooked, code, output, errors, hexits, hcode⟩ :=
      hlook.earlier hnew (List.mem_singleton_self _)
    exact ⟨hlooked, code, ⟨output, errors, hexits⟩, hcode⟩

theorem run_guarded (htypes : PlainWords config.types) (hscopes : PlainWords config.scopes)
    (testing : Bool) (session : Session) :
    ∃ added, ((run config testing).runOn session).2.events = session.events ++ added ∧
      Guarded session.rules (commandsOf added) := by
  obtain ⟨deeds, hdid, plan, hsafe, hfollows⟩ :=
    does_run htypes hscopes testing session _ _ rfl (runs_runOn (run config testing) session)
  obtain ⟨added, hadded, hcommands⟩ := hdid.commands
  exact ⟨added, hadded, hcommands ▸ guarded_of_follows hsafe hfollows⟩

/-- Settings with a pattern that has a scope, a field, and literals that a name could trip over. -/
def scopedConfig : Config :=
  { branchFormat := .custom, customBranchFormat := .str "type/scope/\x7bIssue\x7d.description",
    scopes := [⟨"api", ""⟩] }

/-- All is answered, with blanks and a tilde in between, and there is no branch yet. -/
def answeredSession : Session :=
  { input := [some "ab 12", some "1", some "1", some "Add ~ thing", some ""],
    rules := [⟨"git show-ref", .exited 1 "" ""⟩] }

/-- The notice and the lists can be shown, so their tags need not be looked at. -/
theorem commands_answered :
    commandsOf ((run scopedConfig false).runOn answeredSession).2.events =
      [lookupWords "feat/api/ab-12.add-thing",
        ["git", "checkout", "-b", "feat/api/ab-12.add-thing"], Git.statusWords] := by
  have hinfo := Dialog.info_untagged (by decide : '[' ∉ "New branch".toList)
  have htypes : Selection.chooseType scopedConfig "Type of branch" = _ :=
    Dialog.choose_listed (by decide) (by decide) none
  have hscopes : Dialog.choose "Scope" (Selection.listed scopedConfig.scopes) = _ :=
    Dialog.choose_listed (by decide) (by decide) none
  simp only [run, plan, Selection.chooseScope?, hinfo, htypes, hscopes]
  decide +kernel

theorem run_guarded_scoped :
    PlainWords scopedConfig.types ∧ PlainWords scopedConfig.scopes ∧
      commandsOf ((run scopedConfig false).runOn answeredSession).2.events =
        [lookupWords "feat/api/ab-12.add-thing",
          ["git", "checkout", "-b", "feat/api/ab-12.add-thing"], Git.statusWords] ∧
      ∃ added, ((run scopedConfig false).runOn answeredSession).2.events =
        answeredSession.events ++ added ∧ Guarded answeredSession.rules (commandsOf added) :=
  ⟨by decide, by decide, commands_answered,
    run_guarded (by decide) (by decide) false answeredSession⟩

end CommitStyle.Flow.Branch
