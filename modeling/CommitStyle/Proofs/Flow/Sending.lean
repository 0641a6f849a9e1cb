import CommitStyle.Proofs.Flow.CommitOrder
import CommitStyle.Proofs.KeyFile.Lookup
import CommitStyle.Proofs.Suggestion.Outcome

/-! When the staged changes leave the machine. A commit sends one request at most. Before
it stand a key, something that is staged, and a prompt that is small or that the user
has agreed to send; nothing after it sends anything again. -/

namespace CommitStyle

open CommitStyle.Flow

/-! ## Sending at most once -/

/-- Nothing was sent, or one request, after events that let it pass the gate. -/
def SentOnce (gate : List Event → Request → Prop) (added : List Event) : Prop :=
  requestsOf added = [] ∨ ∃ sent earlier later, added = earlier ++ .request sent :: later ∧
    requestsOf earlier = [] ∧ requestsOf later = [] ∧ gate earlier sent

theorem SentOnce.followed {gate : List Event → Request → Prop} {added more : List Event}
    (h : SentOnce gate added) (hmore : requestsOf more = []) : SentOnce gate (added ++ more) := by
  rcases h with hsilent | ⟨sent, earlier, later, rfl, hearlier, hlater, hgate⟩
  · left
    rw [requestsOf_append, hsilent, hmore]
    rfl
  · refine .inr ⟨sent, earlier, later ++ more, by simp, hearlier, ?_, hgate⟩
    rw [requestsOf_append, hlater, hmore]
    rfl

namespace Flow

variable {α β : Type} {flow : Flow α} {next : α → Flow β} {gate : List Event → Request → Prop}
  {start : Session} {said : List Event}

/-- Where the flow goes on from what was said since the start, one request is sent at most, and it
passes the gate. -/
def Gated (gate : List Event → Request → Prop) (start : Session) (said : List Event)
    (flow : Flow α) : Prop :=
  ∀ middle result after, Adds start middle said → Runs flow middle result after →
    ∃ added, after.events = start.events ++ added ∧ SentOnce gate added

namespace Gated

theorem silent (hsaid : requestsOf said = []) (h : OnlyLocal flow) :
    Gated gate start said flow := by
  intro middle result after hadds hrun
  obtain ⟨more, hmore, hlocal⟩ := h _ _ _ hrun
  exact ⟨said ++ more, (hadds.trans hmore).events, .followed (.inl hsaid) (requestsOf_local hlocal)⟩

/-- A step that sends nothing comes first, and what is known of its run is kept. -/
theorem afterRun (hsaid : requestsOf said = []) (h : OnlyLocal flow)
    (hnext : ∀ middle a later more, Adds start middle said → Runs flow middle (.ok a) later →
      Adds middle later more → requestsOf (said ++ more) = [] →
        Gated gate start (said ++ more) (next a)) :
    Gated gate start said (flow >>= next) := by
  intro middle result after hadds hrun
  rcases runs_bind.mp hrun with ⟨a, later, hfirst, hrest⟩ | ⟨failure, hfirst, -⟩
  · obtain ⟨more, hmore, hlocal⟩ := h _ _ _ hfirst
    have hnone : requestsOf (said ++ more) = [] := by
      rw [requestsOf_append, hsaid, requestsOf_local hlocal]
      rfl
    exact hnext _ _ _ _ hadds hfirst hmore hnone _ _ _ (hadds.trans hmore) hrest
  · exact silent hsaid h _ _ _ hadds hfirst

/-- A step that sends nothing comes first. -/
theorem after (hsaid : requestsOf said = []) (h : OnlyLocal flow)
    (hnext : ∀ a said, requestsOf said = [] → Gated gate start said (next a)) :
    Gated gate start said (flow >>= next) :=
  .afterRun hsaid h fun _ a _ _ _ _ _ hsaid => hnext a _ hsaid

/-- Notices come first. -/
theorem afterNotes (hsaid : requestsOf said = []) (h : OnlyNotes flow)
    (hnext : ∀ a told, (∀ event ∈ told, event.isNotice = true) → requestsOf (said ++ told) = [] →
      Gated gate start (said ++ told) (next a)) :
    Gated gate start said (flow >>= next) := by
  refine .afterRun hsaid h.converses.local fun _ a _ told _ hrun htold hsaid => ?_
  obtain ⟨added, hadds, hnotices⟩ := h _ _ _ hrun
  exact hnext a told (htold.unique hadds ▸ hnotices) hsaid

/-- Notices come first, and may be all. -/
theorem ofLeadsTo {rest : Flow α} (hsaid : requestsOf said = []) (h : LeadsTo flow rest)
    (hrest : ∀ told, requestsOf (said ++ told) = [] → Gated gate start (said ++ told) rest) :
    Gated gate start said flow := by
  intro before result after hadds hrun
  obtain ⟨middle, told, htold, hnotices, hdone⟩ := h _ _ _ hrun
  have hnone : requestsOf (said ++ told) = [] := by
    rw [requestsOf_append, hsaid, requestsOf_local fun event hmem =>
      Event.isLocal_of_isSpoken (Event.isSpoken_of_isNotice (hnotices event hmem))]
    rfl
  rcases hdone with rfl | hdone
  · exact ⟨said ++ told, (hadds.trans htold).events, .inl hnone⟩
  · exact hrest told hnone _ _ _ (hadds.trans htold) hdone

/-- Looking something up leaves all as it is. -/
theorem afterLift {value : Except Failure α} (hsaid : requestsOf said = [])
    (hnext : ∀ a, value = .ok a → Gated gate start said (next a)) :
    Gated gate start said ((liftM value : Flow α) >>= next) := by
  intro middle result after hadds hrun
  rcases runs_bind.mp hrun with ⟨a, later, hlift, hrest⟩ | ⟨failure, hlift, -⟩
  · obtain ⟨hvalue, rfl⟩ := runs_lift.mp hlift
    exact hnext a hvalue.symm _ _ _ hadds hrest
  · exact silent hsaid (.lift value) _ _ _ hadds hlift

/-- A step that sends nothing comes last. -/
theorem thenSilent (h : Gated gate start said flow) (hnext : ∀ a, OnlyLocal (next a)) :
    Gated gate start said (flow >>= next) := by
  intro middle result after hadds hrun
  rcases runs_bind.mp hrun with ⟨a, later, hfirst, hrest⟩ | ⟨failure, hfirst, -⟩
  · obtain ⟨added, hadded, hsent⟩ := h _ _ _ hadds hfirst
    obtain ⟨more, hmore, hlocal⟩ := hnext a _ _ _ hrest
    refine ⟨added ++ more, by rw [hmore.events, hadded, List.append_assoc], ?_⟩
    exact hsent.followed (requestsOf_local hlocal)
  · exact h _ _ _ hadds hfirst

/-- A failure is dealt with without sending anything. -/
protected theorem tryCatch {handler : Failure → Flow α} (h : Gated gate start said flow)
    (h' : ∀ failure, OnlyLocal (handler failure)) :
    Gated gate start said (tryCatch flow handler) := by
  intro middle result after hadds hrun
  rcases runs_tryCatch.mp hrun with ⟨a, hfirst, -⟩ | ⟨failure, later, hfirst, hrest⟩
  · exact h _ _ _ hadds hfirst
  · obtain ⟨added, hadded, hsent⟩ := h _ _ _ hadds hfirst
    obtain ⟨more, hmore, hlocal⟩ := h' failure _ _ _ hrest
    refine ⟨added ++ more, by rw [hmore.events, hadded, List.append_assoc], ?_⟩
    exact hsent.followed (requestsOf_local hlocal)

theorem send {request : Request} (hsaid : requestsOf said = []) (hgate : gate said request) :
    Gated gate start said (Flow.send request) := by
  intro middle result after hadds hrun
  have hevents : after.events = middle.events ++ [.request request] := by
    obtain ⟨_, _, replies, _, _, _, _⟩ := middle
    cases replies <;> cases hrun <;> rfl
  refine ⟨said ++ [.request request], by rw [hevents, hadds.events, List.append_assoc], ?_⟩
  exact .inr ⟨request, said, [], rfl, hsaid, rfl, hgate⟩

end Gated

end Flow

namespace Suggestion

/-! ## What stands before a request -/

variable {config : Config}

/-- The staged changes were read: both commands succeeded, and one of them at least wrote
something. -/
def Read (rules : List CommandRule) (staged : StagedDiff) : Prop :=
  ∃ stats diff, Answers rules Git.statsWords stats ∧ Answers rules Git.diffWords diff ∧
    (Text.isBlankText stats && Text.isBlankText diff) = false ∧
    staged = ⟨stats, Git.shorten diff⟩

/-- The question whether to send a prompt of this size. -/
def sizeQuestion (tokens : Nat) : Except Failure String :=
  Dialog.confirmPrompt s!"Large diff detected (~{tokens} tokens). Generate AI suggestions?" false

/-- The prompt is small, or the last question was about its size and the user said yes. -/
def Consented (config : Config) (input : List (Option String)) (earlier : List Event)
    (prompt : String) : Prop :=
  tokenCount prompt ≤ config.ai.largeDiffTokenThreshold ∨
    ∃ question line, sizeQuestion (tokenCount prompt) = .ok question ∧
      (conversation input earlier).getLast? = some (question, some line) ∧
      Dialog.saysYes false line = true

theorem Consented.later {start middle : Session} {said added : List Event} {prompt : String}
    (h : Consented config middle.input added prompt) (hadds : Adds start middle said) :
    Consented config start.input (said ++ added) prompt := by
  refine h.imp_right fun ⟨question, line, hquestion, hlast, hyes⟩ => ?_
  refine ⟨question, line, hquestion, ?_, hyes⟩
  rw [hadds.conversation, List.getLast?_append, hlast]
  rfl

/-- What has to hold before a prompt is sent with a key. -/
structure Cleared (config : Config) (session : Session) (earlier : List Event)
    (key prompt : String) : Prop where
  enabled : config.ai.enabled = true
  scopes : ∀ scope ∈ config.scopes, scope.value ≠ placeholderScope
  stored : ∃ value, KeyFile.Holds session.files session.environment config.ai.envPath
    config.ai.keyName value ∧ key = Text.strip value
  nonempty : key ≠ ""
  changes : ∃ staged fields, Read session.rules staged ∧
    instructions config staged fields = .ok prompt
  reads : [Git.statsWords, Git.diffWords] <:+ commandsOf earlier
  consent : Consented config session.input earlier prompt

/-- Notices make no difference. -/
theorem Cleared.told {session : Session} {earlier told : List Event} {key prompt : String}
    (h : Cleared config session earlier key prompt)
    (htold : ∀ event ∈ told, event.isNotice = true) :
    Cleared config session (earlier ++ told) key prompt := by
  have hcommands : commandsOf told = [] := by
    refine List.filterMap_eq_nil_iff.mpr fun event hmem => ?_
    have hnotice := htold event hmem
    cases event <;> first | rfl | cases hnotice
  have hconversation : conversation session.input (earlier ++ told) =
      conversation session.input earlier := by
    rw [conversation, conversation, questionsOf_append, questionsOf_notices htold, List.append_nil]
  refine { h with reads := ?_, consent := ?_ }
  · rw [commandsOf_append, hcommands, List.append_nil]
    exact h.reads
  · rw [Consented, hconversation]
    exact h.consent

/-- The request is the one of the provider that is set, and it carries a prompt and a key that are
cleared. -/
def Clears (config : Config) (session : Session) (earlier : List Event) (sent : Request) : Prop :=
  ∃ provider url key prompt, Provider.ofName? config.ai.provider = some provider ∧
    provider.url config.ai.model = .ok url ∧
    sent = provider.request url config.ai.model key prompt ∧
    Cleared config session earlier key prompt

/-! ## Sending -/

section Sending

variable {start : Session} {said : List Event} {key prompt : String}

theorem gated_complete (hsaid : requestsOf said = []) (h : Cleared config start said key prompt) :
    Gated (Clears config start) start said (complete config.ai key prompt) := by
  refine .afterNotes hsaid (.logOn _ _ _ fun _ => rfl) fun _ told htold hsaid' => ?_
  split
  · exact .silent hsaid' (.throw _)
  · rename_i provider hprovider
    refine .afterLift hsaid' fun url hurl => ?_
    refine .thenSilent (.send hsaid' ?_) fun reply => .lift _
    exact ⟨provider, url, key, prompt, hprovider, hurl, rfl, h.told htold⟩

theorem gated_request (hsaid : requestsOf said = []) (h : Cleared config start said key prompt)
    (fields : Entries String) :
    Gated (Clears config start) start said (request config key prompt fields) := by
  rw [request_eq]
  refine .afterNotes hsaid (.emit rfl rfl) fun _ told htold hsaid' => ?_
  have hgenerate : Gated (Clears config start) start (said ++ told)
      (generate config key prompt fields) :=
    .thenSilent (gated_complete hsaid' (h.told htold)) fun answer => .local <| .converses <|
      .bind (onlyNotes_titlesIn answer) fun titles => onlyNotes_acceptable _ _ _
  refine .tryCatch (.thenSilent hgenerate fun titles => ?_) fun failure => ?_
  · exact (onlyNotes_warnNone titles).converses.local
  · exact (onlyNotes_downgrade failure).converses.local

end Sending

/-! ## Suggesting -/

theorem onlyLocal_stagedDiff : OnlyLocal Git.stagedDiff := by
  refine .bind (Git.onlyLocal_run _ _) fun stats => .bind (Git.onlyLocal_run _ _) fun diff => ?_
  split
  · exact .pure _
  · exact .pure _

theorem onlyLocal_changes? : OnlyLocal changes? := by
  refine .tryCatch (.bind onlyLocal_stagedDiff fun staged? => ?_) fun failure => ?_
  · split
    · exact .pure _
    · exact .bind (Dialog.onlyNotes_tell _).converses.local fun _ => .pure _
  · split
    · refine .bind (.log _ _ rfl) fun _ => ?_
      exact .bind (Dialog.onlyNotes_tell _).converses.local fun _ => .pure _
    · exact .throw _

/-- What a successful command wrote is what the rules say. -/
theorem answers_of_run {words : List String} {action output : String} {before after : Session}
    (h : Runs (Git.run words action) before (.ok output) after) :
    Answers before.rules words output := by
  obtain ⟨deeds, -, -, hanswers⟩ := does_run words action _ _ _ rfl h
  exact hanswers output rfl

theorem read_of_stagedDiff {staged : StagedDiff} {before after : Session}
    (h : Runs Git.stagedDiff before (.ok (some staged)) after) : Read before.rules staged := by
  obtain ⟨stats, middle, hstats, hrest⟩ := runs_bind_ok h
  obtain ⟨diff, later, hdiff, hlast⟩ := runs_bind_ok hrest
  obtain ⟨deeds, hdid, -⟩ := does_run _ _ _ _ _ rfl hstats
  have hanswers := answers_of_run hdiff
  rw [hdid.rules] at hanswers
  split at hlast
  · cases (runs_pure.mp hlast).1
  · rename_i hstaged
    cases (runs_pure.mp hlast).1
    exact ⟨stats, diff, answers_of_run hstats, hanswers, by simpa using hstaged, rfl⟩

theorem read_of_changes? {staged : StagedDiff} {before after : Session}
    (h : Runs changes? before (.ok (some staged)) after) : Read before.rules staged := by
  rcases runs_tryCatch.mp h with ⟨_, hread, heq⟩ | ⟨failure, middle, -, hhandled⟩
  · cases heq
    obtain ⟨staged?, middle, hdiff, hrest⟩ := runs_bind_ok hread
    cases staged? with
    | some found =>
      cases (runs_pure.mp hrest).1
      exact read_of_stagedDiff hdiff
    | none =>
      obtain ⟨_, _, -, hnone⟩ := runs_bind_ok hrest
      cases (runs_pure.mp hnone).1
  · split at hhandled
    · obtain ⟨_, _, -, hwarned⟩ := runs_bind_ok hhandled
      obtain ⟨_, _, -, hnone⟩ := runs_bind_ok hwarned
      cases (runs_pure.mp hnone).1
    · cases (runs_throw.mp hhandled).1

/-- The commands that read the staged changes are the last that were run. -/
theorem commands_of_changes? {staged : StagedDiff} {before after : Session} {added : List Event}
    (h : Runs changes? before (.ok (some staged)) after) (hadds : Adds before after added) :
    commandsOf added = [Git.statsWords, Git.diffWords] := by
  obtain ⟨deeds, hdid, -, hreads⟩ := does_changes? _ _ _ rfl h
  rw [hadds.commands hdid, hreads staged rfl]
  rfl

theorem consented_of_maySend {prompt : String} {before after : Session} {added : List Event}
    (h : Runs (maySend config prompt) before (.ok true) after) (hadds : Adds before after added) :
    Consented config before.input added prompt := by
  unfold maySend at h
  dsimp only at h
  split at h
  · rename_i hlarge
    cases hquestion : sizeQuestion (tokenCount prompt) with
    | error failure =>
      obtain ⟨_, hprompt, -⟩ := runs_liftThen h
      cases hquestion.symm.trans hprompt
    | ok question =>
      obtain ⟨others, hothers, -, hanswered⟩ := Dialog.asks_confirm hquestion _ _ _ h
      obtain ⟨line, hlast, hyes⟩ := hanswered true rfl
      obtain rfl := hadds.unique hothers
      exact .inr ⟨question, line, hquestion, hlast, hyes.symm⟩
  · exact .inl (by omega)

theorem scopes_of_not_placeholder (h : config.usesPlaceholderScope = false) :
    ∀ scope ∈ config.scopes, scope.value ≠ placeholderScope := by
  intro scope hmem heq
  have hnone := List.any_eq_false.mp h scope hmem
  exact hnone (beq_iff_eq.mpr heq)

/-- The gates are passed one after the other, and what was found at each is still so at the end. -/
theorem gated_suggest {start : Session} {said : List Event} (hsaid : requestsOf said = [])
    (henabled : config.ai.enabled = true) (fields : Entries String) :
    Gated (Clears config start) start said (suggest config fields) := by
  unfold suggest
  split
  · exact .silent hsaid (.bind (Dialog.onlyNotes_tell _).converses.local fun _ => .pure _)
  rename_i hscopes
  have hscopes := scopes_of_not_placeholder (by simpa using hscopes)
  refine .afterRun hsaid (KeyFile.onlyNotes_get? _ _).converses.local
    fun before key? _ looked hbefore hlookup _ hsaid => ?_
  dsimp only
  split
  · refine .silent hsaid (.bind (.lift _) fun name => .bind (.lift _) fun path => ?_)
    exact .bind (Dialog.onlyNotes_tell _).converses.local fun _ => .pure _
  rename_i hkey
  obtain ⟨key, rfl⟩ : ∃ key, key? = some key := by
    cases key? with
    | none => exact absurd rfl hkey
    | some key => exact ⟨key, rfl⟩
  -- what is said on the way changes no file and no rule, so this held at the start
  have hstored := KeyFile.holds_of_get? hlookup
  rw [hbefore.files, hbefore.environment] at hstored
  refine .afterRun hsaid onlyLocal_changes?
    fun asked staged? _ read hasked hchanges hread hsaid => ?_
  cases staged? with
  | none => exact .silent hsaid (.pure _)
  | some staged =>
    have hcommands := commands_of_changes? hchanges hread
    have hstaged := read_of_changes? hchanges
    rw [hasked.rules] at hstaged
    refine .afterLift hsaid fun prompt hprompt => ?_
    refine .afterRun hsaid (onlyConverses_maySend config prompt).local
      fun settled agreed _ answered hsettled hagreed hanswered hsaid => ?_
    cases agreed with
    | false => exact .silent hsaid (.pure _)
    | true =>
      refine gated_request hsaid ⟨henabled, hscopes, hstored, by simpa using hkey,
        ⟨staged, fields, hstaged, hprompt⟩, ?_, ?_⟩ fields
      · have hquiet : commandsOf answered = [] :=
          hanswered.commands ((onlyConverses_maySend config prompt).talks _ _ _ hagreed)
        rw [commandsOf_append, commandsOf_append, hcommands, hquiet, List.append_nil]
        exact List.suffix_append _ _
      · exact (consented_of_maySend hagreed hanswered).later hsettled

end Suggestion

/-! ## Committing -/

namespace Flow

theorem Title.gated_choose {config : Config} {start : Session} {said : List Event}
    (hsaid : requestsOf said = []) (fields : Entries String) :
    Gated (Suggestion.Clears config start) start said (Title.choose config fields) := by
  rw [Title.choose_eq]
  split
  · rename_i henabled
    exact .thenSilent (Suggestion.gated_suggest hsaid henabled fields) fun suggestions =>
      (Title.onlyConverses_pick _ _ _).local
  · exact .silent hsaid (Title.onlyConverses_pick _ _ _).local

namespace Commit

variable {config : Config} {start : Session} {said : List Event}

theorem gated_settle (hsaid : requestsOf said = []) (branch : String) (fields : Entries String) :
    Gated (Suggestion.Clears config start) start said (settle config branch fields) :=
  .thenSilent (Title.gated_choose hsaid fields) fun title =>
    (onlyConverses_settleTitled config branch title).local

theorem gated_plan (hsaid : requestsOf said = []) (testing : Bool) :
    Gated (Suggestion.Clears config start) start said (plan config testing) := by
  refine .after hsaid Git.onlyLocal_currentBranch fun branch _ hsaid => ?_
  refine .afterLift hsaid fun pattern _ => ?_
  refine .after hsaid (Selection.onlyConverses_askFields _ _).local fun fields _ hsaid => ?_
  show Gated _ _ _ (if config.stageAllChanges && !testing
    then Git.stageAll >>= fun _ => settle config branch fields
    else settle config branch fields)
  split
  · exact .after hsaid (.bind (Git.onlyLocal_run _ _) fun _ => .pure _)
      fun _ _ hsaid => gated_settle hsaid branch fields
  · exact gated_settle hsaid branch fields

theorem unattended_onlyLocal : Unattended OnlyLocal where
  pure a := .pure a
  bind := .bind
  fail _ _ := .throw _
  notice h := (Only.emit h (Event.question?_of_isNotice h)).converses.local
  log level text := .log level text rfl
  command := onlyLocal_command

theorem gated_work (hsaid : requestsOf said = []) (testing : Bool) :
    Gated (Suggestion.Clears config start) start said (work config testing) := by
  refine .thenSilent (gated_plan hsaid testing) fun plan => ?_
  split
  · exact .emit rfl rfl
  · exact unattended_onlyLocal.execute plan

theorem gated_run (config : Config) (testing : Bool) (start : Session) :
    Gated (Suggestion.Clears config start) start [] (run config testing) :=
  .ofLeadsTo rfl (leadsTo_run config testing) fun _ hsaid => gated_work hsaid testing

/-- **The staged changes are sent once at most, and only where every gate is passed.** -/
theorem run_sends (config : Config) (testing : Bool) (session : Session) :
    ∃ added, ((run config testing).runOn session).2.events = session.events ++ added ∧
      (requestsOf added = [] ∨ ∃ provider url key prompt earlier later,
        Suggestion.Provider.ofName? config.ai.provider = some provider ∧
        provider.url config.ai.model = .ok url ∧
        added = earlier ++ .request (provider.request url config.ai.model key prompt) :: later ∧
        requestsOf earlier = [] ∧ requestsOf later = [] ∧
        Suggestion.Cleared config session earlier key prompt) := by
  obtain ⟨added, hadded, hsent⟩ := gated_run config testing session _ _ _ (.refl session)
    (runs_runOn _ _)
  refine ⟨added, hadded, hsent.imp_right ?_⟩
  rintro ⟨_, earlier, later, hevents, hearlier, hlater, provider, url, key, prompt, hprovider,
    hurl, rfl, hcleared⟩
  exact ⟨provider, url, key, prompt, earlier, later, hprovider, hurl, hevents, hearlier, hlater,
    hcleared⟩

end Commit

end Flow

end CommitStyle
