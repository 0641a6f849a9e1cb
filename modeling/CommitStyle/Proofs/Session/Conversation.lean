import CommitStyle.Git
import CommitStyle.Proofs.Session.Running
import CommitStyle.Session.Dialog

/-! What a run is told. Every question reads one line, so the questions among the events of
a run say how much of the input it has used up, and which line was read for which
question. Until a request is sent, all that happens stays on the machine. -/

namespace CommitStyle

/-- The question that an event asks. -/
def Event.question? : Event → Option String
  | .ask question _ => some question
  | _ => none

/-- The request that an event sends. -/
def Event.request? : Event → Option Request
  | .request sent => some sent
  | _ => none

/-- What is said on the terminal and in the log is no deed. -/
def Event.isSpoken (event : Event) : Bool := !event.isDeed

/-- Everything but a request stays on the machine. -/
def Event.isLocal : Event → Bool
  | .request _ => false
  | _ => true

/-- A notice only tells something: it is no deed and wants no answer. -/
def Event.isNotice : Event → Bool
  | .ask _ _ | .command _ | .request _ => false
  | _ => true

/-- The questions among events, in order. -/
def questionsOf (events : List Event) : List String := events.filterMap Event.question?

/-- The requests among events, in order. -/
def requestsOf (events : List Event) : List Request := events.filterMap Event.request?

@[simp]
theorem questionsOf_append (events more : List Event) :
    questionsOf (events ++ more) = questionsOf events ++ questionsOf more := List.filterMap_append

@[simp]
theorem requestsOf_append (events more : List Event) :
    requestsOf (events ++ more) = requestsOf events ++ requestsOf more := List.filterMap_append

@[simp]
theorem Event.isSpoken_ask (question : String) (secret : Bool) :
    (ask question secret).isSpoken = true := rfl

theorem Event.isSpoken_of_isNotice {event : Event} (h : event.isNotice = true) :
    event.isSpoken = true := by
  cases event <;> first | rfl | cases h

theorem Event.isLocal_of_isSpoken {event : Event} (h : event.isSpoken = true) :
    event.isLocal = true := by
  cases event <;> first | rfl | cases h

theorem Event.question?_of_isNotice {event : Event} (h : event.isNotice = true) :
    event.question? = none := by
  cases event <;> first | rfl | cases h

theorem questionsOf_notices {events : List Event} (h : ∀ event ∈ events, event.isNotice = true) :
    questionsOf events = [] :=
  List.filterMap_eq_nil_iff.mpr fun event hmem => Event.question?_of_isNotice (h event hmem)

theorem requestsOf_local {events : List Event} (h : ∀ event ∈ events, event.isLocal = true) :
    requestsOf events = [] := by
  refine List.filterMap_eq_nil_iff.mpr fun event hmem => ?_
  have hlocal := h event hmem
  cases event <;> first | rfl | cases hlocal

/-- The questions among events, each with the line that was read for it. -/
def conversation (input : List (Option String)) (events : List Event) :
    List (String × Option String) := (questionsOf events).zip input

theorem zip_append_drop {α β : Type} (first second : List α) (items : List β) :
    (first ++ second).zip items = first.zip items ++ second.zip (items.drop first.length) := by
  induction first generalizing items with
  | nil => rfl
  | cons head rest ih =>
    cases items with
    | nil => simp
    | cons item others => simpa using ih others

theorem conversation_append (input : List (Option String)) (events more : List Event) :
    conversation input (events ++ more) = conversation input events ++
      conversation (input.drop (questionsOf events).length) more := by
  rw [conversation, questionsOf_append, zip_append_drop]
  rfl

/-- A run from one session to the other added these events, in order. It read a line for each
question among them, answered commands by the same rules and changed no file. -/
structure Adds (before after : Session) (added : List Event) : Prop where
  rules : after.rules = before.rules
  environment : after.environment = before.environment
  files : after.files = before.files
  events : after.events = before.events ++ added
  input : after.input = before.input.drop (questionsOf added).length

namespace Adds

variable {before middle after : Session} {added more : List Event}

theorem refl (session : Session) : Adds session session [] := ⟨rfl, rfl, rfl, by simp, rfl⟩

theorem trans (h : Adds before middle added) (h' : Adds middle after more) :
    Adds before after (added ++ more) := by
  refine ⟨h'.rules.trans h.rules, h'.environment.trans h.environment, h'.files.trans h.files,
    ?_, ?_⟩
  · rw [h'.events, h.events, List.append_assoc]
  · rw [h'.input, h.input, List.drop_drop, questionsOf_append, List.length_append]

/-- The events of a run are what it added. -/
theorem unique (h : Adds before after added) (h' : Adds before after more) : added = more :=
  List.append_cancel_left (h.events.symm.trans h'.events)

/-- The commands among what was added are those that were run. -/
theorem commands {deeds : List Event} (h : Adds before after added)
    (hdid : Did before after deeds) : commandsOf added = commandsOf deeds := by
  obtain ⟨others, hothers, hcommands⟩ := hdid.commands
  obtain rfl := List.append_cancel_left (h.events.symm.trans hothers)
  exact hcommands

/-- What is only said on the terminal and in the log is no deed. -/
theorem did_of_spoken (h : Adds before after added)
    (hspoken : ∀ event ∈ added, event.isSpoken = true) : Did before after [] := by
  refine ⟨h.rules, h.environment, h.files, added, h.events, ?_⟩
  refine List.filter_eq_nil_iff.mpr fun event hmem => ?_
  simpa [Event.isSpoken] using hspoken event hmem

/-- What is said later comes after what was said first. -/
theorem conversation (h : Adds before middle added) (more : List Event) :
    conversation before.input (added ++ more) =
      CommitStyle.conversation before.input added ++
        CommitStyle.conversation middle.input more := by
  rw [conversation_append, h.input]

end Adds

namespace Flow

variable {α β : Type}

/-- Every run of the flow adds events of this kind only. -/
def Only (kind : Event → Bool) (flow : Flow α) : Prop :=
  ∀ before result after, Runs flow before result after →
    ∃ added, Adds before after added ∧ ∀ event ∈ added, kind event = true

namespace Only

variable {kind : Event → Bool} {flow : Flow α} {next : α → Flow β}

protected theorem pure (a : α) : Only kind (pure a) := by
  intro before result after h
  obtain ⟨-, rfl⟩ := runs_pure.mp h
  exact ⟨[], .refl _, by simp⟩

protected theorem throw (failure : Failure) : Only kind (throw failure : Flow α) := by
  intro before result after h
  obtain ⟨-, rfl⟩ := runs_throw.mp h
  exact ⟨[], .refl _, by simp⟩

theorem lift (value : Except Failure α) : Only kind (liftM value : Flow α) := by
  intro before result after h
  obtain ⟨-, rfl⟩ := runs_lift.mp h
  exact ⟨[], .refl _, by simp⟩

protected theorem get : Only kind (get : Flow Session) := by
  intro before result after h
  obtain ⟨-, rfl⟩ := runs_get.mp h
  exact ⟨[], .refl _, by simp⟩

theorem emit {event : Event} (hkind : kind event = true) (hquestion : event.question? = none) :
    Only kind (emit event) := by
  intro before result after hrun
  obtain ⟨-, rfl⟩ := runs_modify.mp hrun
  refine ⟨[event], ⟨rfl, rfl, rfl, rfl, ?_⟩, by simp [hkind]⟩
  simp [questionsOf, hquestion]

protected theorem bind (h : Only kind flow) (h' : ∀ a, Only kind (next a)) :
    Only kind (flow >>= next) := by
  intro before result after hrun
  rcases runs_bind.mp hrun with ⟨a, middle, hfirst, hrest⟩ | ⟨failure, hfirst, -⟩
  · obtain ⟨added, hadds, hadded⟩ := h _ _ _ hfirst
    obtain ⟨more, hmore, hkinds⟩ := h' a _ _ _ hrest
    refine ⟨added ++ more, hadds.trans hmore, fun event hmem => ?_⟩
    rcases List.mem_append.mp hmem with hmem | hmem
    · exact hadded event hmem
    · exact hkinds event hmem
  · exact h _ _ _ hfirst

protected theorem tryCatch {handler : Failure → Flow α} (h : Only kind flow)
    (h' : ∀ failure, Only kind (handler failure)) : Only kind (tryCatch flow handler) := by
  intro before result after hrun
  rcases runs_tryCatch.mp hrun with ⟨a, hfirst, -⟩ | ⟨failure, middle, hfirst, hrest⟩
  · exact h _ _ _ hfirst
  · obtain ⟨added, hadds, hadded⟩ := h _ _ _ hfirst
    obtain ⟨more, hmore, hkinds⟩ := h' failure _ _ _ hrest
    refine ⟨added ++ more, hadds.trans hmore, fun event hmem => ?_⟩
    rcases List.mem_append.mp hmem with hmem | hmem
    · exact hadded event hmem
    · exact hkinds event hmem

theorem mono {other : Event → Bool} (h : Only kind flow)
    (himp : ∀ event, kind event = true → other event = true) : Only other flow := by
  intro before result after hrun
  obtain ⟨added, hadds, hadded⟩ := h _ _ _ hrun
  exact ⟨added, hadds, fun event hmem => himp event (hadded event hmem)⟩

theorem forM {items : List α} {body : α → Flow PUnit} (h : ∀ item, Only kind (body item)) :
    Only kind (items.forM body) := by
  induction items with
  | nil => exact .pure _
  | cons item rest ih => exact (h item).bind fun _ => ih

theorem mapM {items : List α} {body : α → Flow β} (h : ∀ item, Only kind (body item)) :
    Only kind (items.mapM body) := by
  induction items with
  | nil => exact .pure _
  | cons item rest ih =>
    rw [List.mapM_cons]
    exact (h item).bind fun _ => ih.bind fun _ => .pure _

theorem foldlM {items : List α} {body : β → α → Flow β} (h : ∀ b item, Only kind (body b item))
    (start : β) : Only kind (items.foldlM body start) := by
  induction items generalizing start with
  | nil => exact .pure _
  | cons item rest ih => exact (h start item).bind fun b => ih b

theorem log (level : LogLevel) (text : String) (h : kind (.log level text) = true) :
    Only kind (Flow.log level text) := by
  refine .bind .get fun _ => ?_
  split
  · exact .emit h rfl
  · exact .pure _

theorem logOn (level : LogLevel) (value : Json) (line : String → String)
    (h : ∀ text, kind (.log level text) = true) : Only kind (Flow.logOn level value line) := by
  unfold Flow.logOn
  split
  · exact .log level _ (h _)
  · exact .pure _

end Only

/-- A flow that only tells something. -/
abbrev OnlyNotes (flow : Flow α) : Prop := Only Event.isNotice flow

/-- A flow that tells and asks, and reads a line for each question. -/
abbrev OnlyConverses (flow : Flow α) : Prop := Only Event.isSpoken flow

/-- A flow that sends nothing. -/
abbrev OnlyLocal (flow : Flow α) : Prop := Only Event.isLocal flow

theorem Only.converses {flow : Flow α} (h : OnlyNotes flow) : OnlyConverses flow :=
  h.mono fun _ => Event.isSpoken_of_isNotice

theorem Only.local {flow : Flow α} (h : OnlyConverses flow) : OnlyLocal flow :=
  h.mono fun _ => Event.isLocal_of_isSpoken

theorem Only.talks {flow : Flow α} (h : OnlyConverses flow) : OnlyTalks flow := by
  intro before result after hrun
  obtain ⟨added, hadds, hadded⟩ := h _ _ _ hrun
  exact hadds.did_of_spoken hadded

/-- Every run of the flow is a run of the rest after some notices, or is over after them. -/
def LeadsTo (flow rest : Flow α) : Prop :=
  ∀ before result after, Runs flow before result after →
    ∃ middle said, Adds before middle said ∧ (∀ event ∈ said, event.isNotice = true) ∧
      (middle = after ∨ Runs rest middle result after)

namespace LeadsTo

variable {flow rest : Flow α} {first : Flow β} {next : β → Flow α}

protected theorem self (rest : Flow α) : LeadsTo rest rest := by
  intro before result after hrun
  exact ⟨before, [], .refl _, by simp, .inr hrun⟩

theorem notes (h : OnlyNotes flow) : LeadsTo flow rest := by
  intro before result after hrun
  obtain ⟨said, hadds, hnotices⟩ := h _ _ _ hrun
  exact ⟨after, said, hadds, hnotices, .inl rfl⟩

theorem afterNotes (h : OnlyNotes first) (h' : ∀ b, LeadsTo (next b) rest) :
    LeadsTo (first >>= next) rest := by
  intro before result after hrun
  rcases runs_bind.mp hrun with ⟨b, middle, hfirst, hnext⟩ | ⟨failure, hfirst, -⟩
  · obtain ⟨told, htold, hnotices⟩ := h _ _ _ hfirst
    obtain ⟨later, said, hsaid, hmore, hrest⟩ := h' b _ _ _ hnext
    refine ⟨later, told ++ said, htold.trans hsaid, fun event hmem => ?_, hrest⟩
    rcases List.mem_append.mp hmem with hmem | hmem
    · exact hnotices event hmem
    · exact hmore event hmem
  · obtain ⟨told, htold, hnotices⟩ := h _ _ _ hfirst
    exact ⟨after, told, htold, hnotices, .inl rfl⟩

end LeadsTo

theorem onlyLocal_command (words : List String) : OnlyLocal (Flow.command words) := by
  refine .bind (.emit rfl rfl) fun _ => .bind .get fun session => ?_
  split
  · exact .throw _
  · exact .pure _

/-! ## Questions -/

section Questions

variable {question : String} {fits : String → α → Prop} {before middle after : Session}
  {result : Except Failure α}

/-- A run that asked this question, for the last time where it gives something, and what it gives
fits the line that was read then. -/
def Answered (question : String) (fits : String → α → Prop) (before : Session)
    (result : Except Failure α) (after : Session) : Prop :=
  ∃ added, Adds before after added ∧ (∀ event ∈ added, event.isSpoken = true) ∧
    ∀ a, result = .ok a → ∃ line,
      (conversation before.input added).getLast? = some (question, some line) ∧ fits line a

/-- What was said before is no part of the answer. -/
theorem Answered.later {added : List Event} (h : Answered question fits middle result after)
    (hadds : Adds before middle added) (hspoken : ∀ event ∈ added, event.isSpoken = true) :
    Answered question fits before result after := by
  obtain ⟨more, hmore, hmoreSpoken, hlast⟩ := h
  refine ⟨added ++ more, hadds.trans hmore, fun event hmem => ?_, fun a ha => ?_⟩
  · rcases List.mem_append.mp hmem with hmem | hmem
    · exact hspoken event hmem
    · exact hmoreSpoken event hmem
  · obtain ⟨line, hconversation, hfit⟩ := hlast a ha
    refine ⟨line, ?_, hfit⟩
    rw [hadds.conversation, List.getLast?_append, hconversation]
    rfl

/-- Without an answer nothing has to fit. -/
theorem Answered.unanswered {failure : Failure} {added : List Event}
    (hadds : Adds before after added) (hspoken : ∀ event ∈ added, event.isSpoken = true) :
    Answered question fits before (.error failure) after := ⟨added, hadds, hspoken, by simp⟩

/-- A flow whose runs all ask this question. -/
def Asks (question : String) (flow : Flow α) (fits : String → α → Prop) : Prop :=
  ∀ before result after, Runs flow before result after → Answered question fits before result after

theorem Asks.onlyConverses {flow : Flow α} (h : Asks question flow fits) : OnlyConverses flow := by
  intro before result after hrun
  obtain ⟨added, hadds, hspoken, -⟩ := h _ _ _ hrun
  exact ⟨added, hadds, hspoken⟩

end Questions

end Flow

open CommitStyle.Flow

namespace Git

theorem onlyLocal_run (words : List String) (action : String) : OnlyLocal (run words action) := by
  refine .bind (.log _ _ rfl) fun _ => .bind (onlyLocal_command words) fun outcome => ?_
  dsimp only
  split
  · exact .pure _
  · exact .throw _

theorem onlyLocal_currentBranch : OnlyLocal currentBranch :=
  .bind (onlyLocal_run _ _) fun _ => .pure _

end Git

namespace Dialog

variable {α β : Type} {question : String} {secret : Bool} {settle : String → Flow (Option α)}
  {fits : String → α → Prop}

/-- The session in which the question was asked, with the lines that are left. -/
def asked (question : String) (secret : Bool) (rest : List (Option String)) (before : Session) :
    Session :=
  { before with input := rest, events := before.events ++ [.ask question secret] }

theorem adds_asked {session : Session} {line? : Option String} {rest : List (Option String)}
    (h : session.input = line? :: rest) :
    Adds session (asked question secret rest session) [.ask question secret] :=
  ⟨rfl, rfl, rfl, rfl, by rw [h]; rfl⟩

section Lines

variable {rest : List (Option String)} {before after : Session} {result : Except Failure α}

theorem runs_askLines_nil :
    Runs (askLines question secret settle []) before result after ↔
      result = .error .inputExhausted ∧ after = asked question secret before.input before :=
  runs_modifyThen.trans runs_throw

theorem runs_askLines_none :
    Runs (askLines question secret settle (none :: rest)) before result after ↔
      result = .error .interrupted ∧ after = asked question secret rest before :=
  runs_modifyThen.trans (runs_modifyThen.trans runs_throw)

/-- A line that is read is settled, or fails; a refused one leaves the question to the rest. -/
theorem runs_askLines_some {line : String} :
    Runs (askLines question secret settle (some line :: rest)) before result after ↔
      (∃ answer, Runs (settle line) (asked question secret rest before) (.ok (some answer)) after ∧
        result = .ok answer) ∨
      (∃ told, Runs (settle line) (asked question secret rest before) (.ok none) told ∧
        Runs (askLines question secret settle rest) told result after) ∨
      ∃ failure, Runs (settle line) (asked question secret rest before) (.error failure) after ∧
        result = .error failure := by
  show Runs (settle line >>= _) (asked question secret rest before) result after ↔ _
  rw [runs_bind]
  constructor
  · rintro (⟨answer?, told, hsettle, hgoOn⟩ | hfails)
    · cases answer? with
      | some answer =>
        obtain ⟨rfl, rfl⟩ := runs_pure.mp hgoOn
        exact .inl ⟨answer, hsettle, rfl⟩
      | none => exact .inr (.inl ⟨told, hsettle, hgoOn⟩)
    · exact .inr (.inr hfails)
  · rintro (⟨answer, hsettle, rfl⟩ | ⟨told, hsettle, hgoOn⟩ | hfails)
    · exact .inl ⟨some answer, after, hsettle, runs_pure.mpr ⟨rfl, rfl⟩⟩
    · exact .inl ⟨none, told, hsettle, hgoOn⟩
    · exact .inr hfails

end Lines

/-- The lines that are gone through have to be those that are left in the session. -/
theorem answered_askLines (hnotes : ∀ line, OnlyNotes (settle line))
    (hfits : ∀ line, Gives (settle line) fun answer? => ∀ a, answer? = some a → fits line a)
    {lines : List (Option String)} {before after : Session} {result : Except Failure α}
    (hlines : before.input = lines)
    (hrun : Runs (askLines question secret settle lines) before result after) :
    Answered question fits before result after := by
  induction lines generalizing before with
  | nil =>
    obtain ⟨rfl, rfl⟩ := runs_askLines_nil.mp hrun
    exact .unanswered ⟨rfl, rfl, rfl, rfl, by simp [asked, hlines]⟩ (by simp)
  | cons line? rest ih =>
    have hasked : Adds before _ [.ask question secret] := adds_asked hlines
    cases line? with
    | none =>
      obtain ⟨rfl, rfl⟩ := runs_askLines_none.mp hrun
      exact .unanswered hasked (by simp)
    | some line =>
      have hsaid {added : List Event} (hadded : ∀ event ∈ added, event.isNotice = true) :
          ∀ event ∈ [Event.ask question secret] ++ added, event.isSpoken = true := by
        simpa using fun event hmem => Event.isSpoken_of_isNotice (hadded event hmem)
      rcases runs_askLines_some.mp hrun with ⟨answer, hsettle, rfl⟩ | ⟨told, hsettle, hgoOn⟩ |
        ⟨failure, hsettle, rfl⟩
      · obtain ⟨added, hadds, hadded⟩ := hnotes line _ _ _ hsettle
        refine ⟨_, hasked.trans hadds, hsaid hadded, fun a ha => ⟨line, ?_, ?_⟩⟩
        · rw [hasked.conversation, conversation, conversation, questionsOf_notices hadded, hlines]
          rfl
        · cases ha
          exact hfits line _ _ _ hsettle _ rfl
      · -- the line is refused and the question comes again, for the lines that are left
        obtain ⟨added, hadds, hadded⟩ := hnotes line _ _ _ hsettle
        have hleft : told.input = rest := by
          rw [hadds.input, questionsOf_notices hadded]
          rfl
        exact (ih hleft hgoOn).later (hasked.trans hadds) (hsaid hadded)
      · obtain ⟨added, hadds, hadded⟩ := hnotes line _ _ _ hsettle
        exact .unanswered (hasked.trans hadds) (hsaid hadded)

theorem asks_askUntil (hnotes : ∀ line, OnlyNotes (settle line))
    (hfits : ∀ line, Gives (settle line) fun answer? => ∀ a, answer? = some a → fits line a) :
    Asks question (askUntil question secret settle) fits := by
  intro before result after hrun
  exact answered_askLines hnotes hfits rfl (runs_getThen.mp hrun)

theorem onlyConverses_askUntil (hnotes : ∀ line, OnlyNotes (settle line)) :
    OnlyConverses (askUntil question secret settle) := by
  have hasks : Asks question (askUntil question secret settle) fun _ _ => True :=
    asks_askUntil hnotes fun _ _ _ _ _ _ _ => trivial
  exact hasks.onlyConverses

/-- A prompt that can be shown is the question. -/
theorem asks_prompt {β : Type} {shown : Except Failure String} {next : String → Flow β}
    {fits : String → β → Prop} (hshown : shown = .ok question)
    (h : Asks question (next question) fits) :
    Asks question ((liftM shown : Flow String) >>= next) fits := by
  intro before result after hrun
  rcases runs_bind.mp hrun with ⟨prompt, middle, hlift, hrest⟩ | ⟨failure, hlift, -⟩
  · obtain ⟨hprompt, rfl⟩ := runs_lift.mp hlift
    cases hprompt.trans hshown
    exact h _ _ _ hrest
  · cases (runs_lift.mp hlift).1.trans hshown

end Dialog

end CommitStyle
