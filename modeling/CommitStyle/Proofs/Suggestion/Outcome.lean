import CommitStyle.Proofs.Suggestion.Filtering

/-! What asking for suggestions comes to. A service that fails, refuses, or answers in
the wrong form ends in a fault that the flow turns into a warning. Three failures slip
through: the name of the model cannot be written into the address, the answer has no text
where it should have one, or it has a whole number too long to be read. The warning is
looked at for tags like all that is printed, so a fault whose message has tags that do not
fit ends in a failure as well. -/

namespace CommitStyle.Suggestion

open CommitStyle.Flow

variable {config : Config}

theorem formatInstruction_exists (h : config.Renderable) :
    ∃ text, formatInstruction config = .ok text := by
  unfold formatInstruction
  split
  · exact ⟨_, rfl⟩
  · rename_i hformat
    obtain ⟨shown, hshown⟩ := Config.displayed_customFormat h hformat
    rw [hshown]
    exact ⟨_, rfl⟩

theorem instructions_exist (h : config.Renderable) (staged : StagedDiff)
    (fields : Entries String) : ∃ prompt, instructions config staged fields = .ok prompt := by
  obtain ⟨format, hformat⟩ := formatInstruction_exists h
  obtain ⟨sample, hsample⟩ := Config.exampleTitle_exists h fields
  rw [instructions, hformat, hsample]
  exact ⟨_, rfl⟩

/-! ## What the answer makes of it -/

/-- The reply that comes next. -/
def nextReply (session : Session) : Reply := session.replies.headD (.failed "no scripted reply")

/-- What the provider wrote, if it could be asked and its reply is built as expected. -/
def answerOf (provider : Provider) (ai : AiSettings) (reply : Reply) : Except Failure Json := do
  let _ ← provider.url ai.model
  (readReply provider ai.provider reply).mapError Failure.service

/-- The titles in an answer, if it is a text with titles. -/
def titlesFrom : Json → Except Failure (List JsonText)
  | .str text => extract text.toString
  | value => .error (.notText value)

/-- The titles that a reply leaves, or why it leaves none. -/
def titlesOfReply (config : Config) (provider : Provider) (fields : Entries String)
    (reply : Reply) : Except Failure (List String) := do
  let suggestions ← titlesFrom (← answerOf provider config.ai reply)
  return gathered config fields (suggestions.map JsonText.toString)

/-- The warning that a fault of the service is turned into. -/
def warningOf (fault : ServiceFault) : String :=
  Dialog.notice "bold yellow" "⚠️" s!"AI suggestion failed: {fault.message}"

/-- What the flow is left with: a fault of the service is no failure if the warning can be shown. -/
def warned : Except Failure (List String) → Except Failure (List String)
  | .error (.service fault) => (Markup.plain (warningOf fault)).mapError Failure.markup
      |>.map fun _ => []
  | result => result

theorem runs_titlesIn (answer : Json) (session : Session) :
    ∃ after, Runs (titlesIn answer) session (titlesFrom answer) after := by
  cases answer with
  | str text =>
    unfold titlesIn
    dsimp only
    split
    · obtain ⟨events, hlog⟩ := runs_log .debug _ session
      exact ⟨_, hlog.andThen (runs_lift.mpr ⟨rfl, rfl⟩)⟩
    · exact ⟨session, runs_lift.mpr ⟨rfl, rfl⟩⟩
  | null | bool _ | int _ | float _ | arr _ | obj _ =>
    exact ⟨session, runs_throw.mpr ⟨rfl, rfl⟩⟩

theorem runs_send (request : Request) (session : Session) :
    ∃ after, Runs (Flow.send request) session (.ok (nextReply session)) after := by
  obtain ⟨_, _, replies, _, _, _, _⟩ := session
  cases replies with
  | nil => exact ⟨_, rfl⟩
  | cons reply rest => exact ⟨_, rfl⟩

section Generate

variable {provider : Provider} (hformat : config.Renderable)
  (hprovider : Provider.ofName? config.ai.provider = some provider) (key prompt : String)
  (fields : Entries String) (session : Session)

include hprovider

theorem runs_complete : ∃ after, Runs (complete config.ai key prompt) session
    (answerOf provider config.ai (nextReply session)) after := by
  unfold complete
  rw [hprovider]
  obtain ⟨events, hlog⟩ := runs_logOn .debug config.ai.model _ session
  have haddress : Runs (liftM (provider.url config.ai.model) : Flow String)
      { session with events } (provider.url config.ai.model) { session with events } :=
    runs_lift.mpr ⟨rfl, rfl⟩
  have hrest : ∃ after, Runs (do
      let url ← provider.url config.ai.model
      let reply ← Flow.send (provider.request url config.ai.model key prompt)
      (readReply provider config.ai.provider reply).mapError Failure.service)
      { session with events } (answerOf provider config.ai (nextReply session)) after := by
    refine haddress.compute fun url => ?_
    obtain ⟨later, hsend⟩ := runs_send (provider.request url config.ai.model key prompt)
      { session with events }
    exact ⟨later, hsend.andThen (runs_lift.mpr ⟨rfl, rfl⟩)⟩
  obtain ⟨after, hrest⟩ := hrest
  exact ⟨after, hlog.andThen hrest⟩

include hformat

/-- What asking comes to is told by the reply alone. -/
theorem runs_generate : ∃ after, Runs (generate config key prompt fields) session
    (titlesOfReply config provider fields (nextReply session)) after := by
  obtain ⟨middle, hcomplete⟩ := runs_complete hprovider key prompt session
  refine hcomplete.compute fun answer => ?_
  obtain ⟨later, htitles⟩ := runs_titlesIn answer middle
  exact htitles.compute fun suggestions =>
    runs_acceptable (fun suggestion _ => decided hformat fields suggestion.toString) later

end Generate

/-- The status line comes before all else. -/
theorem runs_request {key prompt : String} {fields : Entries String} {session after : Session}
    {result : Except Failure (List String)}
    (h : Runs (tryCatch (generate config key prompt fields >>= warnNone) downgrade)
      { session with events := session.events ++ [.status "Generating AI suggestions..."] }
      result after) : Runs (request config key prompt fields) session result after := by
  rw [request_eq]
  exact runs_modifyThen.mpr h

theorem runs_warnNone (titles : List String) (session : Session) :
    ∃ after, Runs (warnNone titles) session (.ok titles) after := by
  have hshows : Markup.Shows (Dialog.notice "bold yellow" "⚠️"
      "AI suggestions did not match the configured format") :=
    Dialog.shows_notice Dialog.isTag_warning (by decide) (by decide)
  unfold warnNone
  split
  · exact ⟨_, (Dialog.runs_told hshows session).andThen (runs_pure.mpr ⟨rfl, rfl⟩)⟩
  · exact ⟨session, runs_pure.mpr ⟨rfl, rfl⟩⟩

theorem runs_downgrade (failure : Failure) (session : Session) :
    ∃ after, Runs (downgrade failure) session (warned (.error failure)) after := by
  cases failure with
  | service fault =>
    cases hshown : Markup.plain (warningOf fault) with
    | ok text =>
      rw [warned, hshown]
      exact ⟨_, (Dialog.runs_told ⟨text, hshown⟩ session).andThen (runs_pure.mpr ⟨rfl, rfl⟩)⟩
    | error reason =>
      rw [warned, hshown]
      exact ⟨session, (Dialog.runs_untold hshown session).stops⟩
  | _ => exact ⟨session, rfl⟩

section Request

variable {provider : Provider} (hformat : config.Renderable)
  (hprovider : Provider.ofName? config.ai.provider = some provider) (key prompt : String)
  (fields : Entries String) (session : Session)

include hformat hprovider

theorem runs_request_warned : ∃ after, Runs (request config key prompt fields) session
    (warned (titlesOfReply config provider fields (nextReply session))) after := by
  obtain ⟨middle, hgenerate⟩ := runs_generate hformat hprovider key prompt fields
    { session with events := session.events ++ [.status "Generating AI suggestions..."] }
  have hreply : nextReply
      { session with events := session.events ++ [.status "Generating AI suggestions..."] } =
      nextReply session := rfl
  rw [hreply] at hgenerate
  cases htitles : titlesOfReply config provider fields (nextReply session) with
  | ok titles =>
    rw [htitles] at hgenerate
    obtain ⟨after, hwarn⟩ := runs_warnNone titles middle
    exact ⟨after, runs_request (runs_tryCatch.mpr
      (.inl ⟨titles, hgenerate.andThen hwarn, rfl⟩))⟩
  | error failure =>
    rw [htitles] at hgenerate
    obtain ⟨after, hdowngrade⟩ := runs_downgrade failure middle
    exact ⟨after, runs_request (runs_tryCatch.mpr
      (.inr ⟨failure, middle, hgenerate.stops, hdowngrade⟩))⟩

end Request

/-! ## What slips through -/

/-- The failures other than a fault of the service that a reply leads to, or the settings. -/
inductive Slips (provider : Provider) (ai : AiSettings) (reply : Reply) : Failure → Prop
  /-- The address has the name of the model in it, and the name cannot be written. -/
  | address {failure : Failure} (haddress : provider.url ai.model = .error failure) :
    Slips provider ai reply failure
  /-- Where the text should stand there is none. -/
  | notText {url : String} {value : Json} (haddress : provider.url ai.model = .ok url)
      (hvalue : readReply provider ai.provider reply = .ok value)
      (hnone : ∀ text, value ≠ .str text) : Slips provider ai reply (.notText value)
  /-- A whole number in the brackets has too many digits. -/
  | number {url : String} {text : JsonText} {part : List Char} {fault : Number.WholeFault}
      (haddress : provider.url ai.model = .ok url)
      (htext : readReply provider ai.provider reply = .ok (.str text))
      (hpart : bracketed? text.toString.toList = some part)
      (hnumber : Json.read (String.ofList part) = .error (.number fault)) :
      Slips provider ai reply (.number fault)

theorem extract_eq_error {text : String} {failure : Failure} (h : extract text = .error failure) :
    (∃ fault, failure = .service fault) ∨ ∃ part fault, bracketed? text.toList = some part ∧
      Json.read (String.ofList part) = .error (.number fault) ∧ failure = .number fault := by
  unfold extract at h
  split at h
  · cases h
    exact .inl ⟨_, rfl⟩
  rename_i part hpart
  split at h
  · rename_i fault hnumber
    cases h
    exact .inr ⟨part, fault, hpart, hnumber, rfl⟩
  · cases h
    exact .inl ⟨_, rfl⟩
  · split at h
    · cases h
    · cases h
      exact .inl ⟨_, rfl⟩

section Slips

variable {provider : Provider} {fields : Entries String} {reply : Reply} {failure : Failure}

theorem titlesOfReply_eq_error (h : titlesOfReply config provider fields reply = .error failure) :
    (∃ fault, failure = .service fault) ∨ Slips provider config.ai reply failure := by
  unfold titlesOfReply answerOf at h
  cases haddress : provider.url config.ai.model with
  | error fault =>
    rw [haddress] at h
    cases h
    exact .inr (.address haddress)
  | ok url =>
    rw [haddress] at h
    cases hreply : readReply provider config.ai.provider reply with
    | error fault =>
      rw [hreply] at h
      cases h
      exact .inl ⟨fault, rfl⟩
    | ok answer =>
      rw [hreply] at h
      cases answer with
      | str text =>
        have htitles : (extract text.toString).bind (fun suggestions =>
            .ok (gathered config fields (suggestions.map JsonText.toString))) = .error failure := h
        rcases Success.bind_eq_error.mp htitles with hextract | ⟨suggestions, -, hpure⟩
        · rcases extract_eq_error hextract with hservice | ⟨part, fault, hpart, hnumber, rfl⟩
          · exact .inl hservice
          · exact .inr (.number haddress hreply hpart hnumber)
        · cases hpure
      | null | bool _ | int _ | float _ | arr _ | obj _ =>
        cases h
        exact .inr (.notText haddress hreply (by simp))

theorem Slips.titlesOfReply (h : Slips provider config.ai reply failure) :
    titlesOfReply config provider fields reply = .error failure := by
  cases h with
  | address haddress =>
    rw [Suggestion.titlesOfReply, answerOf, haddress]
    rfl
  | @notText _ value haddress hvalue hnone =>
    rw [Suggestion.titlesOfReply, answerOf, haddress, hvalue]
    cases value with
    | str text => exact absurd rfl (hnone text)
    | null | bool _ | int _ | float _ | arr _ | obj _ => rfl
  | @number _ text _ fault haddress htext hpart hnumber =>
    have hextract : extract text.toString = .error (.number fault) := by
      rw [extract, hpart]
      simp only [hnumber]
    rw [Suggestion.titlesOfReply, answerOf, haddress, htext]
    show (extract text.toString >>= _) = _
    rw [hextract]
    rfl

theorem Slips.not_service {ai : AiSettings} (h : Slips provider ai reply failure)
    (fault : ServiceFault) : failure ≠ .service fault := by
  cases h with
  | address haddress =>
    intro heq
    rw [heq] at haddress
    cases provider with
    | anthropic => cases haddress
    | openai => cases haddress
    | google =>
      unfold Provider.url Json.displayed at haddress
      cases hshown : ai.model.display with
      | error other =>
        rw [hshown] at haddress
        cases haddress
      | ok shown =>
        rw [hshown] at haddress
        cases haddress
  | notText => exact nofun
  | number => exact nofun

end Slips

/-! ## The outcome -/

/-- A message without an opening bracket is a warning that can be shown. -/
theorem shows_warningOf {fault : ServiceFault} (h : '[' ∉ fault.message.toList) :
    Markup.Shows (warningOf fault) :=
  Dialog.shows_notice Dialog.isTag_warning (by decide) (by simp [toString, h])

/-- What comes of asking. But for what slips through, asking gives titles or ends in a fault of
the service. The flow has the titles; of a fault it only warns, so that it has none, unless the
warning cannot be shown. What slips through ends the flow as well. -/
structure Outcomes (config : Config) (provider : Provider) (key prompt : String)
    (fields : Entries String) (session : Session) : Prop where
  sound : (∀ failure, ¬ Slips provider config.ai (nextReply session) failure) →
    (∃ titles, ((generate config key prompt fields).runOn session).1 = .ok titles) ∨
      ∃ fault, ((generate config key prompt fields).runOn session).1 = .error (.service fault)
  slips : ∀ failure, Slips provider config.ai (nextReply session) failure →
    ((generate config key prompt fields).runOn session).1 = .error failure ∧
      ((request config key prompt fields).runOn session).1 = .error failure
  titles : ∀ titles, ((generate config key prompt fields).runOn session).1 = .ok titles →
    ((request config key prompt fields).runOn session).1 = .ok titles
  warns : ∀ fault, ((generate config key prompt fields).runOn session).1 =
    .error (.service fault) → Markup.Shows (warningOf fault) →
      ((request config key prompt fields).runOn session).1 = .ok []
  untagged : ∀ fault, '[' ∉ fault.message.toList → Markup.Shows (warningOf fault)
  untold : ∀ fault reason, ((generate config key prompt fields).runOn session).1 =
    .error (.service fault) → Markup.plain (warningOf fault) = .error reason →
      ((request config key prompt fields).runOn session).1 = .error (.markup reason)

/-- The instructions can be written, and what comes of them is told by what slips through and by
the warning. -/
theorem generate_outcomes {provider : Provider} (hformat : config.Renderable)
    (hprovider : Provider.ofName? config.ai.provider = some provider) (key : String)
    (staged : StagedDiff) (fields : Entries String) (session : Session) :
    (∃ prompt, instructions config staged fields = .ok prompt) ∧
      ∀ prompt, Outcomes config provider key prompt fields session := by
  refine ⟨instructions_exist hformat staged fields, fun prompt => ?_⟩
  obtain ⟨_, hgenerate⟩ := runs_generate hformat hprovider key prompt fields session
  obtain ⟨_, hrequest⟩ := runs_request_warned hformat hprovider key prompt fields session
  have hasked := hgenerate.result
  have hflow := hrequest.result
  constructor
  · intro hsound
    rw [hasked]
    cases htitles : titlesOfReply config provider fields (nextReply session) with
    | ok titles => exact .inl ⟨titles, rfl⟩
    | error failure =>
      rcases titlesOfReply_eq_error htitles with ⟨fault, rfl⟩ | hslips
      · exact .inr ⟨fault, rfl⟩
      · exact absurd hslips (hsound failure)
  · intro failure hslips
    have htitles : titlesOfReply config provider fields (nextReply session) = .error failure :=
      hslips.titlesOfReply
    rw [htitles] at hasked hflow
    refine ⟨hasked, hflow.trans ?_⟩
    unfold warned
    split
    · rename_i fault heq
      exact absurd (Except.error.inj heq) (hslips.not_service fault)
    · rfl
  · intro titles htitles
    rw [hflow, ← hasked, htitles]
    rfl
  · intro fault hfault hshows
    obtain ⟨text, hshown⟩ := hshows
    rw [hflow, ← hasked, hfault, warned, hshown]
    rfl
  · intro fault huntagged
    exact shows_warningOf huntagged
  · intro fault reason hfault huntold
    rw [hflow, ← hasked, hfault, warned, huntold]
    rfl

/-- Titles with a pattern of their own, asked for at a service other than the default one. -/
def patternConfig : Config :=
  { format := .custom, customFormat := .str (.whole Pattern.issueSource),
    ai := { provider := "openai" } }

theorem generate_outcomes_pattern :
    patternConfig.Renderable ∧ Provider.ofName? patternConfig.ai.provider = some .openai ∧
      (∃ prompt, instructions patternConfig ⟨"", ""⟩ [("Issue ID", "PROJ-1")] = .ok prompt) ∧
      ∀ prompt, Outcomes patternConfig .openai "key" prompt [("Issue ID", "PROJ-1")]
        { replies := [.failed "timed out"] } := by
  have hformat : patternConfig.Renderable := by
    refine ⟨some (Pattern.compile Pattern.issueSource), rfl, ?_⟩
    rintro p ⟨⟩
    have hnone : Pattern.issueSource.toList.any Pattern.lookalikes.contains = false := by decide
    exact Pattern.named_compile fun c hc hlookalike =>
      List.any_eq_false.mp hnone c hc (List.contains_iff_mem.mpr hlookalike)
  exact ⟨hformat, rfl, generate_outcomes hformat rfl "key" _ _ _⟩

/-- The service answers, with nothing in place of the text. -/
def emptyAnswer : Session :=
  { replies := [.answered 200 "\x7b\"content\": [\x7b\"text\": null\x7d]\x7d"] }

/-- The failure is about a value that should have been a text. -/
def isNotText {α : Type} : Except Failure α → Bool
  | .error (.notText _) => true
  | _ => false

/-- Asking the service then ends in a failure that is no fault of the service. -/
theorem generate_notText :
    ¬ ((∃ titles, ((generate {} "key" "prompt" []).runOn emptyAnswer).1 = .ok titles) ∨
      ∃ fault,
        ((generate {} "key" "prompt" []).runOn emptyAnswer).1 = .error (.service fault)) := by
  have hother : isNotText ((generate {} "key" "prompt" []).runOn emptyAnswer).1 = true := by
    decide +kernel
  rintro (⟨titles, htitles⟩ | ⟨fault, hfault⟩)
  · rw [htitles] at hother
    cases hother
  · rw [hfault] at hother
    cases hother

end CommitStyle.Suggestion
