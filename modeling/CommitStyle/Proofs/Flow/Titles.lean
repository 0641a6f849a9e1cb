import CommitStyle.Flow.Title
import CommitStyle.Proofs.Flow.Courses
import CommitStyle.Proofs.KeyFile.Lookup
import CommitStyle.Proofs.Title.Verdict

/-! What choosing a title does. The suggestions read the staged changes and ask the
service once at most; everything else is talk. Whichever way a title is chosen, it
was accepted. -/

namespace CommitStyle

open CommitStyle.Flow

variable {rules : List CommandRule}

/-! ## Examining -/

theorem onlyNotes_examine (config : Config) (title : String) (fields : Entries String) :
    OnlyNotes (config.examine title fields) := by
  unfold Config.examine
  dsimp only
  split
  · exact .bind (.log _ _ rfl) fun _ => .lift _
  · exact .lift _

theorem gives_examine (config : Config) (title : String) (fields : Entries String) :
    Gives (config.examine title fields) fun verdict =>
      config.accept title fields = .ok verdict := by
  unfold Config.examine
  dsimp only
  split
  · exact .last fun _ => .lift _
  · exact .lift _

/-- Where there is a verdict on a title, examining gives it. -/
theorem runs_examine {config : Config} {title : String} {fields : Entries String}
    {verdict : Verdict} (h : config.accept title fields = .ok verdict) (session : Session) :
    ∃ after, Runs (config.examine title fields) session (.ok verdict) after := by
  unfold Config.examine
  dsimp only
  split
  · obtain ⟨events, hlog⟩ := runs_log .debug _ session
    exact ⟨_, hlog.andThen (runs_lift.mpr ⟨h.symm, rfl⟩)⟩
  · exact ⟨session, runs_lift.mpr ⟨h.symm, rfl⟩⟩

namespace Suggestion

/-! ## Suggestions -/

theorem onlyNotes_takeUp (config : Config) (fields : Entries String) (accepted : List String)
    (suggestion : JsonText) : OnlyNotes (takeUp config fields accepted suggestion) := by
  refine .bind (onlyNotes_examine _ _ _) fun verdict => ?_
  split
  · exact .pure _
  · exact .bind (.log _ _ rfl) fun _ => .pure _

theorem onlyNotes_acceptable (config : Config) (suggestions : List JsonText)
    (fields : Entries String) : OnlyNotes (acceptable config suggestions fields) :=
  .foldlM (fun accepted suggestion => onlyNotes_takeUp config fields accepted suggestion) []

theorem onlyNotes_titlesIn (answer : Json) : OnlyNotes (titlesIn answer) := by
  unfold titlesIn
  split
  · dsimp only
    split
    · exact .bind (.log _ _ rfl) fun _ => .lift _
    · exact .lift _
  · exact .throw _

/-- One request at most. -/
def AsksOnce {α : Type} (deeds : List Event) (_ : Except Failure α) : Prop :=
  ∃ request, deeds <+: [.request request]

theorem does_complete (ai : AiSettings) (key instructions : String) :
    Does rules (complete ai key instructions) AsksOnce := by
  refine .afterNotice (.logOn _ _ _) (.logOn _ _ _) fun _ => ?_
  have hnothing (request : Request) : [] <+: [Event.request request] := List.nil_prefix
  split
  · exact .throw ⟨⟨"", [], .null, 0⟩, hnothing _⟩
  · refine .afterAnyTalk (.lift _) (fun url => ?_) fun _ => ⟨⟨"", [], .null, 0⟩, hnothing _⟩
    refine .bind (.send _) ?_ ?_
    · rintro reply deeds rfl
      exact .talk (.lift _) fun _ => ⟨_, List.prefix_rfl⟩
    · rintro failure deeds rfl
      exact ⟨_, List.prefix_rfl⟩

theorem does_generate (config : Config) (key instructions : String) (fields : Entries String) :
    Does rules (generate config key instructions fields) AsksOnce := by
  refine .bind (does_complete _ _ _) (fun answer deeds hdeeds => ?_) fun _ _ hdeeds => hdeeds
  have htitles : OnlyNotes (titlesIn answer >>= fun titles => acceptable config titles fields) :=
    .bind (onlyNotes_titlesIn answer) fun titles => onlyNotes_acceptable _ titles _
  refine .talk htitles.converses.talks fun _ => ?_
  simpa [AsksOnce] using hdeeds

/-- A warning where no title is left. -/
def warnNone (titles : List String) : Flow (List String) := do
  if titles.isEmpty then
    Dialog.warning "AI suggestions did not match the configured format"
  return titles

/-- A fault of the service is only warned about. -/
def downgrade : Failure → Flow (List String)
  | .service fault => do
    Dialog.warning s!"AI suggestion failed: {fault.message}"
    return []
  | failure => throw failure

theorem onlyNotes_warnNone (titles : List String) : OnlyNotes (warnNone titles) := by
  unfold warnNone
  split
  · exact .bind (Dialog.onlyNotes_tell _) fun _ => .pure _
  · exact .pure _

theorem onlyNotes_downgrade (failure : Failure) : OnlyNotes (downgrade failure) := by
  unfold downgrade
  split
  · exact .bind (Dialog.onlyNotes_tell _) fun _ => .pure _
  · exact .throw _

theorem request_eq (config : Config) (key prompt : String) (fields : Entries String) :
    request config key prompt fields = (do
      Flow.emit (.status "Generating AI suggestions...")
      tryCatch (generate config key prompt fields >>= warnNone) downgrade) := by
  unfold request downgrade
  congr

theorem does_request (config : Config) (key prompt : String) (fields : Entries String) :
    Does rules (request config key prompt fields) AsksOnce := by
  rw [request_eq]
  refine .afterNotice (.emit rfl) (.emit _) fun _ => ?_
  refine .tryCatch (?_ : Does rules _ AsksOnce) (fun _ _ hdeeds => hdeeds) ?_
  · refine .bind (does_generate _ _ _ _) (fun titles deeds hdeeds => ?_) fun _ _ hdeeds => hdeeds
    refine .talk (onlyNotes_warnNone titles).converses.talks fun _ => ?_
    simpa [AsksOnce] using hdeeds
  · intro failure deeds hdeeds
    refine .talk (onlyNotes_downgrade failure).converses.talks fun _ => ?_
    simpa [AsksOnce] using hdeeds

/-- The staged changes are read by two commands. -/
def readEvents : List Event := [.command Git.statsWords, .command Git.diffWords]

theorem does_stagedDiff :
    Does rules Git.stagedDiff fun deeds result => deeds <+: readEvents ∧
      ∀ staged?, result = .ok staged? → deeds = readEvents := by
  refine .bind (does_run Git.statsWords "get diff stats") ?_ ?_
  · rintro stats deeds ⟨rfl, -⟩
    refine .bind (does_run Git.diffWords "get diff") ?_ ?_
    · rintro diff deeds ⟨rfl, -⟩
      refine .talk ?_ fun _ => ⟨List.prefix_rfl, fun _ _ => rfl⟩
      split
      · exact .pure _
      · exact .pure _
    · rintro failure deeds ⟨rfl, -⟩
      exact ⟨List.prefix_rfl, by simp⟩
  · rintro failure deeds ⟨rfl, -⟩
    exact ⟨List.prefix_append _ _, by simp⟩

theorem does_changes? :
    Does rules changes? fun deeds result => deeds <+: readEvents ∧
      ∀ staged, result = .ok (some staged) → deeds = readEvents := by
  refine .tryCatch (?_ : Does rules _ fun deeds result => deeds <+: readEvents ∧
    ∀ staged, result = .ok (some staged) → deeds = readEvents) (fun _ _ h => h) ?_
  · refine .bind does_stagedDiff (fun staged? deeds hdeeds => ?_) ?_
    · obtain rfl := hdeeds.2 staged? rfl
      refine .talk ?_ fun _ => ⟨by simp, by simp⟩
      split
      · exact .pure _
      · exact .bind (Dialog.onlyTalks_tell _) fun _ => .pure _
    · rintro failure deeds ⟨hdeeds, -⟩
      exact ⟨hdeeds, by simp⟩
  · rintro failure deeds ⟨hdeeds, -⟩
    split
    · refine .afterNotice (.log _ _) (.log _ _) fun _ => ?_
      exact .afterAnyTalk (Dialog.onlyTalks_tell _)
        (fun _ => .pure ⟨by simpa using hdeeds, by simp⟩) fun _ => ⟨by simpa using hdeeds, by simp⟩
    · exact .throw ⟨by simpa using hdeeds, by simp⟩

/-- The staged changes are read first, and sent once at most. -/
def ReadsAndAsks (deeds : List Event) : Prop :=
  ∃ request, deeds <+: readEvents ++ [.request request]

theorem ReadsAndAsks.of_reads {deeds : List Event} (h : deeds <+: readEvents) :
    ReadsAndAsks deeds := ⟨⟨"", [], .null, 0⟩, h.trans (List.prefix_append _ _)⟩

theorem ReadsAndAsks.commands {deeds : List Event} (h : ReadsAndAsks deeds) :
    commandsOf deeds <+: [Git.statsWords, Git.diffWords] := by
  obtain ⟨request, hdeeds⟩ := h
  exact hdeeds.filterMap Event.words?

theorem onlyConverses_maySend (config : Config) (prompt : String) :
    OnlyConverses (maySend config prompt) := by
  unfold maySend
  dsimp only
  split
  · exact Dialog.onlyConverses_confirm _ _
  · exact .pure _

theorem does_suggest (config : Config) (fields : Entries String) :
    Does rules (suggest config fields) fun deeds _ => ReadsAndAsks deeds := by
  have hnothing : ReadsAndAsks [] := .of_reads List.nil_prefix
  unfold suggest
  split
  · exact .talk (.bind (Dialog.onlyTalks_tell _) fun _ => .pure _) fun _ => hnothing
  refine .afterAnyTalk (KeyFile.onlyNotes_get? _ _).converses.talks (fun key? => ?_)
    fun _ => hnothing
  dsimp only
  split
  · refine .afterAnyTalk (.lift _) (fun name => ?_) fun _ => hnothing
    refine .afterAnyTalk (.lift _) (fun path => ?_) fun _ => hnothing
    exact .talk (.bind (Dialog.onlyTalks_tell _) fun _ => .pure _) fun _ => hnothing
  refine .bind does_changes? (fun staged? deeds hdeeds => ?_) fun _ _ hdeeds => .of_reads hdeeds.1
  have hreads : ReadsAndAsks (deeds ++ []) := by simpa using .of_reads hdeeds.1
  cases staged? with
  | none => exact .pure hreads
  | some staged =>
    obtain rfl := hdeeds.2 staged rfl
    refine .afterAnyTalk (.lift _) (fun prompt => ?_) fun _ => hreads
    refine .afterAnyTalk (onlyConverses_maySend _ _).talks (fun agreed => ?_) fun _ => hreads
    split
    · refine (does_request config _ prompt fields).mono fun more _ hmore => ?_
      obtain ⟨request, hrequest⟩ := hmore
      exact ⟨request, List.prefix_append_right_inj _ |>.mpr hrequest⟩
    · exact .pure hreads

end Suggestion

namespace Flow.Title

/-! ## Titles -/

/-- Some text was accepted as this title. -/
def Accepted (config : Config) (fields : Entries String) (title : String) : Prop :=
  ∃ text, config.accept text fields = .ok (.ok title)

theorem onlyNotes_judge (config : Config) (fields : Entries String) (title : String) :
    OnlyNotes (judge config fields title) := .bind (onlyNotes_examine _ _ _) fun _ => .pure _

theorem gives_judge (config : Config) (fields : Entries String) (text : String) :
    Gives (judge config fields text) fun verdict =>
      ∀ title, verdict = .ok title → Accepted config fields title := by
  refine .bind (gives_examine config text fields) fun verdict haccept =>
    .pure fun title htitle => ?_
  cases verdict with
  | error rejection => cases htitle
  | ok normalized =>
    cases htitle
    exact ⟨text, haccept⟩

theorem onlyConverses_writeOwn (config : Config) (fields : Entries String) :
    OnlyConverses (writeOwn config fields) := by
  refine .bind (Dialog.onlyConverses_choose _ _ _) fun type => .bind (.lift _) fun needsScope => ?_
  refine .bind (Selection.onlyConverses_chooseScope? _ _) fun scope => ?_
  refine Dialog.onlyConverses_askText _ (fun description => ?_) _
  split
  · exact .pure _
  · exact .bind (.lift _) fun title => onlyNotes_judge _ _ _

theorem gives_writeOwn (config : Config) (fields : Entries String) :
    Gives (writeOwn config fields) (Accepted config fields) := by
  refine .last fun type => .last fun needsScope => .last fun scope => ?_
  refine Dialog.gives_askText (fun description => ?_) _
  split
  · exact .pure (by simp)
  · exact .last fun title => gives_judge config fields title

/-- Picking a title where these are suggested. -/
def pick (config : Config) (fields : Entries String) (suggestions : List String) : Flow String := do
  if suggestions.isEmpty then writeOwn config fields
  else
    let chosen ← Dialog.choose "Commit title"
      (suggestions.map (·, "") ++ [(ownTitle, "Write the title manually")])
    if chosen == ownTitle then writeOwn config fields
    else Dialog.askText "Commit title?" (judge config fields) (some (.str (.whole chosen)))

theorem choose_eq (config : Config) (fields : Entries String) :
    choose config fields = if config.ai.enabled then
      Suggestion.suggest config fields >>= pick config fields else pick config fields [] := by
  unfold choose
  simp only [pure_bind]
  rfl

theorem onlyConverses_pick (config : Config) (fields : Entries String)
    (suggestions : List String) : OnlyConverses (pick config fields suggestions) := by
  unfold pick
  split
  · exact onlyConverses_writeOwn _ _
  refine .bind (Dialog.onlyConverses_choose _ _ _) fun chosen => ?_
  split
  · exact onlyConverses_writeOwn _ _
  · exact Dialog.onlyConverses_askText _ (onlyNotes_judge _ _) _

theorem gives_pick (config : Config) (fields : Entries String) (suggestions : List String) :
    Gives (pick config fields suggestions) (Accepted config fields) := by
  unfold pick
  split
  · exact gives_writeOwn _ _
  refine .last fun chosen => ?_
  split
  · exact gives_writeOwn _ _
  · exact Dialog.gives_askText (gives_judge config fields) _

/-- A title is chosen with the commands and the request of the suggestions at most, and it was
accepted. -/
theorem does_choose (config : Config) (fields : Entries String) :
    Does rules (choose config fields) fun deeds result => Suggestion.ReadsAndAsks deeds ∧
      ∀ title, result = .ok title → Accepted config fields title := by
  have hpick (suggestions : List String) {deeds : List Event}
      (hdeeds : Suggestion.ReadsAndAsks deeds) :
      Does rules (pick config fields suggestions) fun more result =>
        Suggestion.ReadsAndAsks (deeds ++ more) ∧
          ∀ title, result = .ok title → Accepted config fields title := by
    have hall : Suggestion.ReadsAndAsks (deeds ++ []) := by simpa using hdeeds
    refine .answer (onlyConverses_pick _ _ _).talks (gives_pick _ _ _) (fun title htitle => ?_)
      fun _ => ⟨hall, by simp⟩
    exact ⟨hall, fun _ h => Except.ok.inj h ▸ htitle⟩
  rw [choose_eq]
  split
  · refine .bind (Suggestion.does_suggest config fields) (fun suggestions deeds hdeeds => ?_) ?_
    · exact hpick suggestions hdeeds
    · exact fun _ _ hdeeds => ⟨hdeeds, by simp⟩
  · exact hpick [] (.of_reads List.nil_prefix)

end Flow.Title

end CommitStyle
