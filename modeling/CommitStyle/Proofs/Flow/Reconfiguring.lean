import CommitStyle.Proofs.Config.Loaded
import CommitStyle.Proofs.Flow.Courses
import CommitStyle.Proofs.Flow.SettingUp
import CommitStyle.Proofs.Session.Accepting
import CommitStyle.Proofs.Text.Trimming

/-! Setting up again with nothing but empty lines. Each question offers what is set so far, so
the settings come out as they went in. The one exception is the branch of releases: what
is offered for it is the branch that git reports, whatever the file said. A path that
cannot be shown in a line makes the run fail once all is written. -/

namespace CommitStyle

open CommitStyle.Flow

/-- A text of characters with no white space at either end. -/
def Json.IsTrimmed (value : Json) : Prop :=
  ∃ text : String, Text.Trimmed text.toList ∧ value = .str (.whole text)

namespace Flow.Setup

/-- Settings that every question of the setup lets stand. -/
structure Settled (config : Config) : Prop extends Usable config where
  trimmedFormat : config.format.isCustom = true → config.customFormat.IsTrimmed
  trimmedBranchFormat : config.branchFormat.isCustom = true → config.customBranchFormat.IsTrimmed
  suggestions : config.ai.enabled = false

/-- The branch that git reports; `main` where it ends with an error. -/
def reportedBranch? (rules : List CommandRule) : Option String :=
  match CommitStyle.Outcome.ofRules rules Git.headWords with
  | .notInstalled => none
  | .exited code output _ => some (if code == 0 then Text.strip output else "main")

/-- The settings with all defaults accepted, where git reports this branch. -/
def accepted (config : Config) (branch : String) : Config :=
  if config.changeVersion = "releaseBranch" then
    { config with releaseBranch := .str (.whole branch) }
  else config

/-- The branch that is read back once this one was written. -/
def readBack (branch : String) : String := if branch = "" then "main" else branch

/-- How many questions the setup asks. -/
def questions (config : Config) (offerCommit : Bool) : Nat :=
  8 + config.format.isCustom.toNat + config.branchFormat.isCustom.toNat +
    (config.changeVersion == "releaseBranch").toNat + offerCommit.toNat

variable {rules : List CommandRule} {config : Config} {branch : String}

/-! ## Settings one by one -/

theorem accepts_chooseFormat {α : Type} {message kind : String} {all : List α} {code : α → Json}
    {label : α → String} {current : α} (hmessage : '[' ∉ message.toList)
    (hlisted : Dialog.IsPlainList (all.map fun format => (codeText (code format), label format)))
    (h : all.find? (fun format => codeText (code format) == codeText (code current)) =
      some current) :
    Accepts rules 1 (chooseFormat message kind all code label current) current := by
  have hmem : codeText (code current) ∈
      (all.map fun format => (codeText (code format), label format)).map Prod.fst := by
    rw [List.map_map]
    exact List.mem_map_of_mem (List.mem_of_find?_eq_some h)
  refine .thenQuiet (Dialog.accepts_choose hmessage hlisted hmem) ?_
  dsimp only
  rw [h]
  exact .pure _

theorem accepts_commitFormat (current : CommitFormat) :
    Accepts rules 1 (chooseFormat "Commit format" "CommitFormat" CommitFormat.all CommitFormat.code
      CommitFormat.label current) current := by
  refine accepts_chooseFormat (by decide) (by decide) ?_
  rcases current with ⟨_ | _ | _ | _, _ | _⟩ | _ <;> rfl

theorem accepts_branchFormat (current : BranchFormat) :
    Accepts rules 1 (chooseFormat "Branch format" "BranchFormat" BranchFormat.all
      BranchFormat.code BranchFormat.label current) current := by
  refine accepts_chooseFormat (by decide) (by decide) ?_
  cases current <;> rfl

/-- A pattern without fault that stands trimmed is offered as it is. -/
theorem accepts_askPattern {message : String} (hmessage : '[' ∉ message.toList)
    {kind : PatternKind} {setting : Json} (htrimmed : setting.IsTrimmed)
    (hfault : patternFaultOf setting kind = .ok none) (sample : String) :
    Accepts rules 1 (askPattern message kind setting sample) setting := by
  obtain ⟨source, htrim, rfl⟩ := htrimmed
  unfold patternFaultOf at hfault
  split at hfault
  · cases hfault
  rename_i htruthy
  have hoffered : settingOr (.str (.whole source)) (.str (.whole sample)) =
      .str (.whole source) := if_pos (by simpa using htruthy)
  have hsound : Pattern.fault? source kind = none := Except.ok.inj hfault
  unfold askPattern
  dsimp only
  rw [hoffered]
  refine .thenQuiet (Dialog.accepts_askText hmessage ?_) (.pure _)
  rw [Text.strip_eq_self.mpr htrim]
  exact Dialog.accepts_refusing (by rw [hsound]; rfl)

theorem accepts_askOwn {custom : Bool} {ask : Flow Json} {setting : Json}
    (hcustom : custom = true → Accepts rules 1 ask setting)
    (hbuiltin : custom = false → setting = .null) :
    Accepts rules custom.toNat (askOwn custom ask) setting := by
  cases custom with
  | true => exact hcustom rfl
  | false =>
    rw [hbuiltin rfl]
    exact .pure _

theorem accepts_askLength {message : String} (hmessage : '[' ∉ message.toList)
    {least current : Int} (hpositive : 1 ≤ current) (hleast : least ≤ current)
    (hmost : current ≤ maxSetupLength) :
    Accepts rules 1 (askLength message least current) current := by
  unfold askLength
  dsimp only
  refine Dialog.accepts_askWhole hmessage (Dialog.accepts_refusing ?_)
  have hfault : Answer.maximumFault? least current = none := by
    unfold Answer.maximumFault? Answer.setupLengthFault?
    dsimp only
    rw [if_neg (by omega), if_neg (by omega), if_neg (by omega)]
    rfl
  rw [hfault]
  rfl

/-! ## The branch of releases -/

/-- A command that ends with an error is told of as a failure of git. -/
theorem runs_failedGit {words : List String} {code : Int} {output errors : String}
    (h : CommitStyle.Outcome.ofRules rules words = .exited code output errors) (hcode : code ≠ 0)
    (action : String) {session : Session} (hrules : session.rules = rules) :
    ∃ events, Runs (Git.run words action) session
      (.error (.git action (failureDetail words code errors))) { session with events } := by
  obtain ⟨said, hlog⟩ := runs_log .debug ("Running " ++ " ".intercalate words) session
  obtain ⟨events, hcommand⟩ :=
    Accepts.command h { session with events := said } session.input hrules rfl
  refine ⟨events, hlog.andThen (hcommand.andThen ?_)⟩
  dsimp only
  rw [if_neg (by simpa using hcode)]
  exact runs_throw.mpr ⟨rfl, rfl⟩

theorem accepts_offeredReleaseBranch (h : reportedBranch? rules = some branch) :
    Accepts rules 0 offeredReleaseBranch branch := by
  unfold reportedBranch? at h
  split at h
  · cases h
  rename_i code output errors houtcome
  by_cases hcode : code = 0
  · obtain rfl : Text.strip output = branch := by simpa [hcode] using h
    refine .tryCatch (.thenQuiet (.after (.log _ _) (.after (.command houtcome) ?_)) (.pure _))
    rw [hcode]
    exact .pure output
  · obtain rfl : "main" = branch := by simpa [hcode] using h
    intro session rest hrules hinput
    obtain ⟨events, hfailed⟩ :=
      runs_failedGit houtcome hcode "get current branch" hrules
    refine ⟨events, runs_tryCatch.mpr (.inr ⟨_, _, hfailed.stops, ?_⟩)⟩
    exact runs_pure.mpr ⟨rfl, by rw [← show session.input = rest from hinput]⟩

/-- The branch that is offered is trimmed. -/
theorem strip_reportedBranch (h : reportedBranch? rules = some branch) :
    Text.strip branch = branch := by
  unfold reportedBranch? at h
  split at h
  · cases h
  · cases h
    split
    · exact Text.strip_eq_self.mpr (Text.trimmed_strip _)
    · rfl

theorem accepts_askReleaseBranch {mode : String} {current : Json}
    (hgit : mode = "releaseBranch" → reportedBranch? rules = some branch) :
    Accepts rules (mode == "releaseBranch").toNat (askReleaseBranch mode current)
      (if mode = "releaseBranch" then .str (.whole branch) else current) := by
  unfold askReleaseBranch
  by_cases hmode : mode = "releaseBranch"
  · have hreported := hgit hmode
    simp only [hmode, beq_self_eq_true, if_true, Bool.toNat_true]
    refine .after (accepts_offeredReleaseBranch hreported) ?_
    have hkept : Accepts rules 0 (Dialog.anything (Text.strip branch)) (.ok branch) := by
      rw [strip_reportedBranch hreported]
      exact .pure _
    exact .thenQuiet (Dialog.accepts_askText (by decide) hkept) (.pure _)
  · simp only [beq_eq_false_iff_ne.mpr hmode, hmode, if_false, Bool.toNat_false]
    exact .pure _

/-! ## All questions -/

theorem accepts_askSuggestions {ai : AiSettings} (h : ai.enabled = false) :
    Accepts rules 1 (askSuggestions ai) ai := by
  refine .thenQuiet (Dialog.accepts_confirm (by decide) _) ?_
  have hsame : { ai with enabled := false } = ai := by rw [← h]
  rw [h, Bool.not_false, if_pos rfl, hsame]
  exact .pure _

theorem Fitting.null_of_builtin {custom : Bool} {setting : Json} {kind : PatternKind}
    (h : Fitting custom setting kind) (hbuiltin : custom = false) : setting = .null := by
  by_contra hset
  rw [h.1.mp hset] at hbuiltin
  cases hbuiltin

theorem accepts_ownPattern {custom : Bool} {message : String} (hmessage : '[' ∉ message.toList)
    {kind : PatternKind} {setting : Json} (hfits : Fitting custom setting kind)
    (htrimmed : custom = true → setting.IsTrimmed) (sample : String) :
    Accepts rules custom.toNat (askOwn custom (askPattern message kind setting sample)) setting :=
  accepts_askOwn
    (fun hcustom => accepts_askPattern hmessage (htrimmed hcustom) (hfits.2 hcustom) sample)
    hfits.null_of_builtin

/-- Every question lets its setting stand. -/
theorem accepts_askConfig (h : Settled config) (hmode : config.changeVersion ∈ changeVersionModes)
    (hgit : config.changeVersion = "releaseBranch" → reportedBranch? rules = some branch) :
    Accepts rules (questions config false) (askConfig config) (accepted config branch) := by
  have hmost : max config.maxLength config.minLength = config.maxLength := max_eq_left h.ordered
  have hresult : accepted config branch = { config with
      releaseBranch := if config.changeVersion = "releaseBranch" then .str (.whole branch)
        else config.releaseBranch } := by
    unfold accepted
    split <;> rfl
  -- one line for each question that is asked, in their order
  have hcount : questions config false = 1 + (config.format.isCustom.toNat + (1 +
      (config.branchFormat.isCustom.toNat + (1 + (1 + (1 + (1 +
        ((config.changeVersion == "releaseBranch").toNat + (1 + 1))))))))) := by
    simp only [questions, Bool.toNat_false]
    omega
  rw [hcount, hresult, askConfig_eq]
  refine .bind (accepts_commitFormat _) ?_
  refine .bind (accepts_ownPattern (by decide) h.customFormat h.trimmedFormat _) ?_
  refine .bind (accepts_branchFormat _) ?_
  refine .bind (accepts_ownPattern (by decide) h.customBranchFormat h.trimmedBranchFormat _) ?_
  refine .bind (accepts_askLength (by decide) h.positive h.positive
    (h.ordered.trans h.bounded)) ?_
  rw [hmost]
  refine .bind (accepts_askLength (by decide) (h.positive.trans h.ordered) h.ordered h.bounded) ?_
  refine .bind (Dialog.accepts_confirm (by decide) _) ?_
  refine .bind (Dialog.accepts_choose (by decide) (by decide) hmode) ?_
  refine .bind (accepts_askReleaseBranch hgit) ?_
  refine .bind (Dialog.accepts_confirm (by decide) _) ?_
  exact .thenQuiet (accepts_askSuggestions h.suggestions) (.pure _)

/-! ## The whole run -/

/-- Whether a scope is needed can be told wherever a custom format has its pattern. -/
theorem needs_known (h : Settled config) :
    (∃ needed, config.requiresScope = .ok needed) ∧
      ∃ needed, config.branchRequiresScope = .ok needed := by
  have hpattern {setting : Json} (htrimmed : setting.IsTrimmed) :
      ∃ pattern, patternOf setting = .ok pattern := by
    obtain ⟨source, -, rfl⟩ := htrimmed
    unfold patternOf
    split
    · exact ⟨_, rfl⟩
    · exact ⟨_, rfl⟩
  constructor
  · unfold Config.requiresScope Config.commitPattern
    split
    · obtain ⟨pattern, hfound⟩ := hpattern (h.trimmedFormat ‹_›)
      exact ⟨_, by rw [hfound]; rfl⟩
    · exact ⟨_, rfl⟩
  · unfold Config.branchRequiresScope Config.branchPattern
    split
    · obtain ⟨pattern, hfound⟩ := hpattern (h.trimmedBranchFormat ‹_›)
      exact ⟨_, by rw [hfound]; rfl⟩
    · exact ⟨_, rfl⟩

@[simp]
theorem requiresScope_accepted (config : Config) (branch : String) :
    (accepted config branch).requiresScope = config.requiresScope := by
  unfold accepted
  split <;> rfl

@[simp]
theorem branchRequiresScope_accepted (config : Config) (branch : String) :
    (accepted config branch).branchRequiresScope = config.branchRequiresScope := by
  unfold accepted
  split <;> rfl

@[simp]
theorem scopes_accepted (config : Config) (branch : String) :
    (accepted config branch).scopes = config.scopes := by
  unfold accepted
  split <;> rfl

/-- Where the scopes that are needed are there, none are added. -/
theorem accepts_provideScopes (hneeded : ∃ needed, config.requiresScope = .ok needed)
    (hbranch : ∃ needed, config.branchRequiresScope = .ok needed)
    (hscopes : config.requiresScope = .ok true ∨ config.branchRequiresScope = .ok true →
      config.scopes ≠ []) (path : String) :
    Accepts rules 0 (provideScopes config path) config := by
  obtain ⟨needed, hneeded⟩ := hneeded
  obtain ⟨branchNeeded, hbranch⟩ := hbranch
  refine .after (.lift hneeded) (.after (.lift hbranch) ?_)
  have henough : ((needed || branchNeeded) && config.scopes.isEmpty) = false := by
    rw [hneeded, hbranch] at hscopes
    cases needed <;> cases branchNeeded <;> simp_all
  rw [henough, if_neg Bool.false_ne_true]
  exact .pure _

theorem accepts_answers (h : Settled config) (hmode : config.changeVersion ∈ changeVersionModes)
    (hgit : config.changeVersion = "releaseBranch" → reportedBranch? rules = some branch)
    (path : String) (offerCommit : Bool) :
    Accepts rules (questions config offerCommit) (answers path offerCommit config)
      ⟨accepted config branch, false⟩ := by
  obtain ⟨hneeded, hbranch⟩ := needs_known h
  have hscopes : Accepts rules 0 (provideScopes (accepted config branch) path)
      (accepted config branch) :=
    accepts_provideScopes (by simpa using hneeded) (by simpa using hbranch)
      (by simpa using h.scopes) path
  have hcount : questions config offerCommit = questions config false + offerCommit.toNat := rfl
  rw [hcount]
  refine .bind (accepts_askConfig h hmode hgit) (.after hscopes ?_)
  cases offerCommit with
  | true => exact .thenQuiet (Dialog.accepts_confirm (by decide) _) (.pure _)
  | false => exact .pure _

section Run

variable {path : String} {session loaded : Session} {offerCommit : Bool}

/-- The setup goes on from what can be loaded. -/
theorem opening_exists (h : Runs (Config.load path) session (.ok config) loaded) :
    ∃ events, Runs (opening path) session (.ok config) { session with events } := by
  obtain ⟨text, data, htext, hdata, hconfig⟩ := Config.runs_load h
  have hthere := Files.isThere_of_read (Config.read_of_readText htext)
  have hload (said : List Event) : ∃ events, Runs (Config.load path)
      { session with events := said } (.ok config) { session with events } :=
    Config.load_exists htext hdata hconfig
  obtain ⟨events, hload⟩ := hload _
  have hshows : Markup.Shows (Dialog.notice "bold blue" "ℹ️" "Create config file") :=
    Dialog.shows_notice Dialog.isTag_info (by decide) (by decide)
  refine ⟨events, (Dialog.runs_tell.mpr (.inl ⟨hshows, rfl, rfl⟩)).andThen ?_⟩
  refine (runs_isThere.mpr ⟨rfl, rfl⟩).andThen ?_
  dsimp only
  rw [hthere]
  exact hload

/-- The line is the last step, so how it ends is how the whole ends. -/
theorem announce_exists (path : String) (outcome : Outcome) (session : Session) :
    ∃ after, Runs (Dialog.tell (writtenLine path) >>= fun _ => pure outcome) session
        (announced path outcome) after ∧
      after.files = session.files ∧ after.input = session.input := by
  have hrun := runs_runOn (Dialog.tell (writtenLine path) >>= fun _ => pure outcome) session
  obtain ⟨hresult, hrest⟩ := runs_announce hrun
  rw [hresult] at hrun
  exact ⟨_, hrun, hrest⟩

theorem finish_exists (outcome : Outcome) (session : Session)
    (h : session.files.IsWritable path) :
    ∃ after, Runs (finish path outcome) session (announced path outcome) after ∧
      after.input = session.input ∧
      session.files.write path outcome.config.fileText = .ok after.files := by
  obtain ⟨written, hwritten⟩ := h.write outcome.config.fileText
  obtain ⟨events, hlog⟩ := runs_log .debug s!"Saved configuration to {path}"
    { session with files := written }
  have hsave : Runs (outcome.config.save path) session (.ok ()) _ :=
    (runs_writeText.mpr ⟨written, hwritten, rfl⟩).andThen hlog
  obtain ⟨after, htelling, hfiles, hinput⟩ :=
    announce_exists path outcome { session with files := written, events }
  exact ⟨after, hsave.andThen htelling, hinput, hfiles ▸ hwritten⟩

/-- Empty lines lead through the whole setup, and what is accepted is written. -/
theorem runs_accepted (h : Settled config)
    (hload : Runs (Config.load path) session (.ok config) loaded)
    (hmode : config.changeVersion ∈ changeVersionModes)
    (hgit : config.changeVersion = "releaseBranch" → reportedBranch? session.rules = some branch)
    {rest : List (Option String)}
    (hinput : session.input = List.replicate (questions config offerCommit) (some "") ++ rest) :
    ∃ after, Runs (run path offerCommit) session
        (announced path ⟨accepted config branch, false⟩) after ∧
      after.input = rest ∧
      session.files.write path (accepted config branch).fileText = .ok after.files := by
  obtain ⟨said, hopening⟩ := opening_exists hload
  obtain ⟨events, hanswers⟩ := accepts_answers h hmode hgit path offerCommit
    { session with events := said } rest rfl hinput
  obtain ⟨text, data, htext, -, -⟩ := Config.runs_load hload
  have hwritable := Files.IsWritable.of_read (Config.read_of_readText htext)
  obtain ⟨after, hfinish, hrest, hwritten⟩ := finish_exists ⟨accepted config branch, false⟩
    { session with input := rest, events } hwritable
  refine ⟨after, ?_, hrest, hwritten⟩
  rw [run_eq]
  exact (hopening.andThen hanswers).andThen hfinish

/-! ## What is loaded afterwards -/

theorem isPlain_accepted (h : config.IsPlain) (branch : String) :
    (accepted config branch).IsPlain := by
  unfold accepted
  split
  · exact { h with releaseBranch := plain_word branch }
  · exact h

theorem settingOr_branch (branch : String) :
    settingOr (.str (.whole branch)) (.str "main") = .str (.whole (readBack branch)) := by
  unfold settingOr readBack
  by_cases h : branch = ""
  · simp [h, Json.isTruthy, JsonText.isEmpty]
  · simp [h, Json.isTruthy, JsonText.isEmpty]

theorem ofJson_accepted (hback : Config.ofJson config.toJson = .ok config) (branch : String) :
    Config.ofJson (accepted config branch).toJson = .ok (accepted config (readBack branch)) := by
  unfold accepted
  split
  · rw [Config.ofJson_toJson_releaseBranch hback, settingOr_branch]
  · exact hback

/-- Settings are read back as they are only where their branch of releases is. -/
theorem settingOr_releaseBranch (hback : Config.ofJson config.toJson = .ok config) :
    settingOr config.releaseBranch (.str "main") = config.releaseBranch := by
  have hsame := Config.ofJson_toJson_releaseBranch hback config.releaseBranch
  rw [show ({ config with releaseBranch := config.releaseBranch } : Config) = config from rfl,
    hback] at hsame
  exact (congrArg Config.releaseBranch (Except.ok.inj hsame)).symm

theorem accepted_eq_self
    (h : config.changeVersion = "releaseBranch" → config.releaseBranch = .str (.whole branch)) :
    accepted config branch = config := by
  unfold accepted
  split
  · rw [← h ‹_›]
  · rfl

theorem accepted_readBack (hback : Config.ofJson config.toJson = .ok config)
    (h : config.changeVersion = "releaseBranch" → config.releaseBranch = .str (.whole branch)) :
    accepted config (readBack branch) = config := by
  refine accepted_eq_self fun hmode => ?_
  rw [← settingOr_branch, ← h hmode, settingOr_releaseBranch hback]

/-- **Setting up again with empty lines only.** The settings come out as they were, but for the
branch of releases where the change of version depends on it: that becomes the branch that git
reports. What was written is loaded as what came out, a blank branch as the default one. So all
settings stay unless the change of version depends on another branch than the reported one. A path
that cannot be shown makes the run fail after that, which no path without an opening bracket
does. -/
theorem run_accepting (h : Settled config)
    (hload : Runs (Config.load path) session (.ok config) loaded)
    (hback : Config.ofJson config.toJson = .ok config)
    (hgit : config.changeVersion = "releaseBranch" → reportedBranch? session.rules = some branch)
    {rest : List (Option String)}
    (hinput : session.input = List.replicate (questions config offerCommit) (some "") ++ rest) :
    ∃ after, Runs (run path offerCommit) session
        (announced path ⟨accepted config branch, false⟩) after ∧
      ('[' ∉ path.toList →
        announced path ⟨accepted config branch, false⟩ = .ok ⟨accepted config branch, false⟩) ∧
      after.input = rest ∧
      (∀ later : Session, later.files = after.files → ∃ done,
        Runs (Config.load path) later (.ok (accepted config (readBack branch))) done) ∧
      ((config.changeVersion = "releaseBranch" → config.releaseBranch = .str (.whole branch)) →
        accepted config branch = config ∧ accepted config (readBack branch) = config) := by
  obtain ⟨hplain, hmode⟩ := Config.isPlain_of_load hload
  obtain ⟨after, hrun, hrest, hwritten⟩ := runs_accepted h hload hmode hgit hinput
  refine ⟨after, hrun, fun huntagged => announced_eq_ok (shows_writtenLine huntagged) _,
    hrest, fun later hfiles => ?_, fun hsame =>
    ⟨accepted_eq_self hsame, accepted_readBack hback hsame⟩⟩
  have hread := Files.read_written hwritten
  obtain ⟨events, hdone⟩ := Config.load_fileText (isPlain_accepted hplain branch)
    (ofJson_accepted hback branch) (hfiles ▸ hread)
  exact ⟨_, hdone⟩

/-- Settings under which a change of version depends on the branch. -/
def releasing : Config :=
  { format := .custom, customFormat := .str "type: Description",
    changeVersion := "releaseBranch", releaseBranch := .str "main" }

/-- The settings are stored, git reports another branch, and every answer is empty. -/
def featureSession : Session :=
  { input := List.replicate (questions releasing false) (some "")
    rules := [⟨"git rev-parse", .exited 0 "feature\n" ""⟩]
    files := [("commit-config.json", .text releasing.fileText)] }

theorem storable_releasing : releasing.Storable :=
  { Config.storable_default with
    customFormat := .inr ⟨_, by decide, rfl⟩
    changeVersion := by simp [releasing, changeVersionModes]
    releaseBranch := ⟨_, by decide, rfl⟩ }

theorem settled_releasing : Settled releasing where
  positive := by decide
  ordered := by decide
  bounded := by decide
  customFormat := ⟨iff_of_true nofun rfl, fun _ => patternFaultOf_eq_none (by decide)⟩
  customBranchFormat := fitting_null _
  scopes := by
    rintro (h | h)
    · cases h
    · cases h
  trimmedFormat _ := ⟨_, Text.strip_eq_self.mp (by decide), rfl⟩
  trimmedBranchFormat := nofun
  suggestions := rfl

theorem reportedBranch_featureSession :
    reportedBranch? featureSession.rules = some "feature" := by
  decide +kernel

theorem load_releasing :
    ∃ loaded, Runs (Config.load "commit-config.json") featureSession (.ok releasing) loaded := by
  have hwritten : Files.write [] "commit-config.json" releasing.fileText =
      .ok featureSession.files :=
    Files.write_eq_ok.mpr ⟨["commit-config.json"], by rfl, by decide, rfl⟩
  obtain ⟨events, hload⟩ := Config.load_fileText storable_releasing.isPlain
    (Config.ofJson_toJson storable_releasing) (Files.read_written hwritten)
  exact ⟨_, hload⟩

theorem run_accepting_custom :
    ∃ after done, Runs (run "commit-config.json" false) featureSession
        (.ok ⟨{ releasing with releaseBranch := .str "feature" }, false⟩) after ∧
      Runs (Config.load "commit-config.json") after
        (.ok { releasing with releaseBranch := .str "feature" }) done := by
  obtain ⟨loaded, hload⟩ := load_releasing
  obtain ⟨after, hrun, hshown, -, hagain, -⟩ := run_accepting settled_releasing hload
    (Config.ofJson_toJson storable_releasing)
    (fun _ => reportedBranch_featureSession)
    (List.append_nil _).symm
  obtain ⟨done, hdone⟩ := hagain after rfl
  rw [hshown (by decide)] at hrun
  exact ⟨after, done, hrun, hdone⟩

/-- Another branch than the one in the file comes out where git reports another one. -/
theorem run_replaces_releaseBranch :
    (∃ loaded, Runs (Config.load "commit-config.json") featureSession (.ok releasing) loaded) ∧
      Config.ofJson releasing.toJson = .ok releasing ∧ Settled releasing ∧
      featureSession.input = List.replicate (questions releasing false) (some "") ∧
      ∃ outcome after, Runs (run "commit-config.json" false) featureSession (.ok outcome) after ∧
        outcome.config ≠ releasing := by
  obtain ⟨loaded, hload⟩ := load_releasing
  obtain ⟨after, hrun, -, -⟩ := runs_accepted settled_releasing hload
    (by simp [releasing, changeVersionModes])
    (fun _ => reportedBranch_featureSession)
    (List.append_nil _).symm
  rw [announced_eq_ok (shows_writtenLine (by decide))] at hrun
  refine ⟨⟨loaded, hload⟩, Config.ofJson_toJson storable_releasing, settled_releasing, rfl,
    _, after, hrun, fun heq => ?_⟩
  have hbranch : Json.str "feature" = .str "main" := congrArg Config.releaseBranch heq
  simp at hbranch

end Run

end Flow.Setup

end CommitStyle
