import CommitStyle.Session.Basic
import Mathlib.Data.List.Basic

/-! Runs of flows. A run leads from one session to another and has a result. What a
run does beyond the terminal and the log are its deeds: the commands that it runs
and the requests that it sends. A flow that does no deeds and leaves the files
alone only talks. -/

namespace CommitStyle

/-- A command or a request; everything else stays on the terminal and in the log. -/
def Event.isDeed : Event → Bool
  | .command _ | .request _ => true
  | _ => false

/-- The words of a command. -/
def Event.words? : Event → Option (List String)
  | .command words => some words
  | _ => none

/-- The commands among events, in order. -/
def commandsOf (events : List Event) : List (List String) := events.filterMap Event.words?

@[simp]
theorem commandsOf_append (events more : List Event) :
    commandsOf (events ++ more) = commandsOf events ++ commandsOf more := List.filterMap_append

theorem commandsOf_filter (events : List Event) :
    commandsOf (events.filter Event.isDeed) = commandsOf events := by
  rw [commandsOf, List.filterMap_filter]
  refine List.filterMap_congr fun event _ => ?_
  cases event <;> rfl

/-- A run from one session to the other did these deeds, in order. It answered commands by the
same rules and changed no file. -/
structure Did (before after : Session) (deeds : List Event) : Prop where
  rules : after.rules = before.rules
  environment : after.environment = before.environment
  files : after.files = before.files
  events : ∃ added, after.events = before.events ++ added ∧ added.filter Event.isDeed = deeds

namespace Did

variable {before middle after : Session} {deeds more : List Event}

theorem refl (session : Session) : Did session session [] := ⟨rfl, rfl, rfl, [], by simp⟩

theorem trans (h : Did before middle deeds) (h' : Did middle after more) :
    Did before after (deeds ++ more) := by
  obtain ⟨first, hf, hfirst⟩ := h.events
  obtain ⟨second, hs, hsecond⟩ := h'.events
  refine ⟨h'.rules.trans h.rules, h'.environment.trans h.environment, h'.files.trans h.files,
    first ++ second, ?_, ?_⟩
  · rw [hs, hf, List.append_assoc]
  · rw [List.filter_append, hfirst, hsecond]

/-- The commands among what a run did are those that it added to the events. -/
theorem commands (h : Did before after deeds) :
    ∃ added, after.events = before.events ++ added ∧ commandsOf added = commandsOf deeds := by
  obtain ⟨added, hadded, rfl⟩ := h.events
  exact ⟨added, hadded, (commandsOf_filter added).symm⟩

end Did

namespace Flow

variable {α β : Type}

/-- A run of a flow. -/
def Runs (flow : Flow α) (before : Session) (result : Except Failure α) (after : Session) : Prop :=
  flow.runOn before = (result, after)

theorem runs_runOn (flow : Flow α) (session : Session) :
    Runs flow session (flow.runOn session).1 (flow.runOn session).2 := rfl

theorem runs_of_result {flow : Flow α} {session : Session} {result : Except Failure α}
    (h : (flow.runOn session).1 = result) :
    Runs flow session result (flow.runOn session).2 := Prod.ext h rfl

theorem Runs.result {flow : Flow α} {before after : Session} {result : Except Failure α}
    (h : Runs flow before result after) : (flow.runOn before).1 = result := congrArg Prod.fst h

section Steps

variable {before middle after : Session} {result : Except Failure α}
  {result' : Except Failure β}

theorem runs_pure {a : α} :
    Runs (pure a) before result after ↔ result = .ok a ∧ after = before := by
  constructor
  · intro h
    cases h
    exact ⟨rfl, rfl⟩
  · rintro ⟨rfl, rfl⟩
    rfl

theorem runs_throw {failure : Failure} :
    Runs (throw failure) before result after ↔ result = .error failure ∧ after = before := by
  constructor
  · intro h
    cases h
    exact ⟨rfl, rfl⟩
  · rintro ⟨rfl, rfl⟩
    rfl

theorem runOn_bind (flow : Flow α) (next : α → Flow β) (session : Session) :
    (flow >>= next).runOn session =
      match flow.runOn session with
      | (.ok a, middle) => (next a).runOn middle
      | (.error failure, middle) => (.error failure, middle) := by
  show (match flow.runOn session with
    | (result, middle) => (ExceptT.bindCont next result).run middle) = _
  cases flow.runOn session with
  | mk result middle => cases result <;> rfl

theorem runs_bind {flow : Flow α} {next : α → Flow β} :
    Runs (flow >>= next) before result' after ↔
      (∃ a middle, Runs flow before (.ok a) middle ∧ Runs (next a) middle result' after) ∨
      ∃ failure, Runs flow before (.error failure) after ∧ result' = .error failure := by
  unfold Runs
  rw [runOn_bind]
  cases flow.runOn before with
  | mk first middle =>
    cases first with
    | ok a =>
      constructor
      · intro hrest
        exact .inl ⟨a, middle, rfl, hrest⟩
      · rintro (⟨_, _, hfirst, hrest⟩ | ⟨_, hfirst, -⟩)
        · cases hfirst
          exact hrest
        · cases hfirst
    | error failure =>
      constructor
      · intro hrun
        cases hrun
        exact .inr ⟨failure, rfl, rfl⟩
      · rintro (⟨_, _, hfirst, -⟩ | ⟨_, hfirst, rfl⟩)
        · cases hfirst
        · cases hfirst
          rfl

/-- A run of the first step, then one of the rest. -/
theorem Runs.andThen {flow : Flow α} {next : α → Flow β} {a : α}
    (h : Runs flow before (.ok a) middle) (h' : Runs (next a) middle result' after) :
    Runs (flow >>= next) before result' after :=
  runs_bind.mpr (.inl ⟨a, middle, h, h'⟩)

/-- The first failure ends the run. -/
theorem Runs.stops {flow : Flow α} {next : α → Flow β} {failure : Failure}
    (h : Runs flow before (.error failure) after) :
    Runs (flow >>= next) before (.error failure) after :=
  runs_bind.mpr (.inr ⟨failure, h, rfl⟩)

/-- A flow whose result is known and what goes on with the result, as one computation. -/
theorem Runs.compute {flow : Flow α} {next : α → Flow β} {rest : α → Except Failure β}
    (h : Runs flow before result middle)
    (hnext : ∀ a, ∃ after, Runs (next a) middle (rest a) after) :
    ∃ after, Runs (flow >>= next) before (result >>= rest) after := by
  cases result with
  | ok a =>
    obtain ⟨after, hrun⟩ := hnext a
    exact ⟨after, h.andThen hrun⟩
  | error failure => exact ⟨middle, h.stops⟩

theorem runs_get {result : Except Failure Session} :
    Runs get before result after ↔ result = .ok before ∧ after = before := by
  constructor
  · intro h
    cases h
    exact ⟨rfl, rfl⟩
  · rintro ⟨rfl, rfl⟩
    rfl

theorem runs_modify {change : Session → Session} {result : Except Failure PUnit} :
    Runs (modify change) before result after ↔ result = .ok ⟨⟩ ∧ after = change before := by
  constructor
  · intro h
    cases h
    exact ⟨rfl, rfl⟩
  · rintro ⟨rfl, rfl⟩
    rfl

theorem runs_lift {value : Except Failure α} :
    Runs (liftM value) before result after ↔ result = value ∧ after = before := by
  have hrun : Runs (liftM value : Flow α) before value before := by cases value <;> rfl
  constructor
  · intro h
    cases hrun.symm.trans h
    exact ⟨rfl, rfl⟩
  · rintro ⟨rfl, rfl⟩
    exact hrun

/-- A run that gives something goes through the first step. -/
theorem runs_bind_ok {flow : Flow α} {next : α → Flow β} {b : β}
    (h : Runs (flow >>= next) before (.ok b) after) :
    ∃ a middle, Runs flow before (.ok a) middle ∧ Runs (next a) middle (.ok b) after := by
  rcases runs_bind.mp h with hsteps | ⟨failure, -, heq⟩
  · exact hsteps
  · cases heq

theorem runs_getThen {next : Session → Flow β} :
    Runs (get >>= next) before result' after ↔ Runs (next before) before result' after := Iff.rfl

/-- A step that changes the session cannot fail. -/
theorem runs_modifyThen {change : Session → Session} {next : PUnit → Flow β} :
    Runs (modify change >>= next) before result' after ↔
      Runs (next ⟨⟩) (change before) result' after := Iff.rfl

/-- A step that only looks something up gives what is found. -/
theorem runs_liftThen {value : Except Failure α} {next : α → Flow β} {b : β}
    (h : Runs ((liftM value : Flow α) >>= next) before (.ok b) after) :
    ∃ a, value = .ok a ∧ Runs (next a) before (.ok b) after := by
  obtain ⟨a, middle, hlift, hrest⟩ := runs_bind_ok h
  obtain ⟨hvalue, rfl⟩ := runs_lift.mp hlift
  exact ⟨a, hvalue.symm, hrest⟩

theorem runs_isThere {path : String} {result : Except Failure Bool} :
    Runs (isThere path) before result after ↔
      result = .ok (before.files.isThere path) ∧ after = before := by
  unfold isThere
  rw [runs_getThen, runs_pure]

theorem runs_readText {path : String} {result : Except Failure String} :
    Runs (readText path) before result after ↔
      result = before.files.read path ∧ after = before := by
  unfold readText
  rw [runs_getThen, runs_lift]

theorem runs_writeText {path content : String} {session after : Session} :
    Runs (writeText path content) session (.ok ()) after ↔
      ∃ written, session.files.write path content = .ok written ∧
        after = { session with files := written } := by
  constructor
  · intro h
    obtain ⟨written, hwrite, hmodify⟩ := runs_liftThen (runs_getThen.mp h)
    exact ⟨written, hwrite, (runs_modify.mp hmodify).2⟩
  · rintro ⟨written, hwrite, rfl⟩
    refine runs_getThen.mpr ?_
    exact (runs_lift.mpr ⟨hwrite.symm, rfl⟩).andThen (runs_modify.mpr ⟨rfl, rfl⟩)

theorem runOn_tryCatch (flow : Flow α) (handler : Failure → Flow α) (session : Session) :
    (tryCatch flow handler).runOn session =
      match flow.runOn session with
      | (.ok a, middle) => (.ok a, middle)
      | (.error failure, middle) => (handler failure).runOn middle := by
  unfold runOn ExceptT.run StateT.run
  simp only [tryCatch, tryCatchThe, MonadExceptOf.tryCatch, ExceptT.tryCatch, ExceptT.mk, bind,
    StateT.bind]
  cases flow session with
  | mk result middle => cases result <;> rfl

theorem runs_tryCatch {flow : Flow α} {handler : Failure → Flow α} :
    Runs (tryCatch flow handler) before result after ↔
      (∃ a, Runs flow before (.ok a) after ∧ result = .ok a) ∨
      ∃ failure middle, Runs flow before (.error failure) middle ∧
        Runs (handler failure) middle result after := by
  unfold Runs
  rw [runOn_tryCatch]
  cases h : flow.runOn before with
  | mk first middle =>
    cases first with
    | ok a => simp [eq_comm, and_comm]
    | error failure => simp

end Steps

/-! ## Talking -/

/-- A flow that does no deeds and changes no file. -/
def OnlyTalks (flow : Flow α) : Prop :=
  ∀ before result after, Runs flow before result after → Did before after []

namespace OnlyTalks

variable {flow : Flow α} {next : α → Flow β}

protected theorem pure (a : α) : OnlyTalks (pure a) := by
  intro before result after h
  obtain ⟨-, rfl⟩ := runs_pure.mp h
  exact .refl _

theorem lift (value : Except Failure α) : OnlyTalks (liftM value : Flow α) := by
  intro before result after h
  obtain ⟨-, rfl⟩ := runs_lift.mp h
  exact .refl _

protected theorem get : OnlyTalks (get : Flow Session) := by
  intro before result after h
  obtain ⟨-, rfl⟩ := runs_get.mp h
  exact .refl _

protected theorem bind (h : OnlyTalks flow) (h' : ∀ a, OnlyTalks (next a)) :
    OnlyTalks (flow >>= next) := by
  intro before result after hrun
  rcases runs_bind.mp hrun with ⟨a, middle, hfirst, hrest⟩ | ⟨failure, hfirst, -⟩
  · exact (h _ _ _ hfirst).trans (h' a _ _ _ hrest)
  · exact h _ _ _ hfirst

theorem emit {event : Event} (h : event.isDeed = false) : OnlyTalks (emit event) := by
  intro before result after hrun
  obtain ⟨-, rfl⟩ := runs_modify.mp hrun
  exact ⟨rfl, rfl, rfl, [event], rfl, by simp [h]⟩

protected theorem modify {change : Session → Session}
    (h : ∀ session, Did session (change session) []) : OnlyTalks (modify change : Flow Unit) := by
  intro before result after hrun
  obtain ⟨-, rfl⟩ := runs_modify.mp hrun
  exact h before

/-- Reading a reply leaves all but the replies as it is. -/
theorem takeReply (rest : List Reply) :
    OnlyTalks (modify fun session => { session with replies := rest } : Flow Unit) :=
  .modify fun _ => ⟨rfl, rfl, rfl, [], by simp, rfl⟩

end OnlyTalks

/-! ## Results -/

/-- Every value that the flow can give has the property. -/
def Gives (flow : Flow α) (P : α → Prop) : Prop :=
  ∀ before a after, Runs flow before (.ok a) after → P a

namespace Gives

variable {flow : Flow α} {next : α → Flow β} {P : α → Prop} {Q : β → Prop}

protected theorem pure {a : α} (h : P a) : Gives (pure a) P := by
  intro before b after hrun
  obtain ⟨heq, -⟩ := runs_pure.mp hrun
  cases heq
  exact h

protected theorem throw (failure : Failure) : Gives (throw failure) P := by
  intro before b after hrun
  cases (runs_throw.mp hrun).1

protected theorem bind (h : Gives flow P) (h' : ∀ a, P a → Gives (next a) Q) :
    Gives (flow >>= next) Q := by
  intro before b after hrun
  rcases runs_bind.mp hrun with ⟨a, middle, hfirst, hrest⟩ | ⟨failure, -, heq⟩
  · exact h' a (h _ _ _ hfirst) _ _ _ hrest
  · cases heq

theorem lift (value : Except Failure α) : Gives (liftM value) fun a => value = .ok a := by
  intro before a after hrun
  exact (runs_lift.mp hrun).1.symm

theorem mapM {items : List α} {body : α → Flow β} {R : α → β → Prop}
    (h : ∀ item, Gives (body item) (R item)) : Gives (items.mapM body) (List.Forall₂ R items) := by
  induction items with
  | nil => exact .pure .nil
  | cons item rest ih =>
    rw [List.mapM_cons]
    exact .bind (h item) fun b hb => .bind ih fun others hothers => .pure (.cons hb hothers)

/-- Whatever comes first, the last step decides. -/
theorem last (h : ∀ a, Gives (next a) Q) : Gives (flow >>= next) Q :=
  Gives.bind (P := fun _ => True) (fun _ _ _ _ => trivial) fun a _ => h a

end Gives

/-- Every failure that the flow can end in has the property. -/
def Fails (flow : Flow α) (P : Failure → Prop) : Prop :=
  ∀ before failure after, Runs flow before (.error failure) after → P failure

namespace Fails

variable {flow : Flow α} {next : α → Flow β} {P : Failure → Prop}

protected theorem pure (a : α) : Fails (pure a) P := by
  intro before failure after hrun
  cases (runs_pure.mp hrun).1

protected theorem throw {failure : Failure} (h : P failure) : Fails (throw failure : Flow α) P := by
  intro before other after hrun
  cases (runs_throw.mp hrun).1
  exact h

theorem lift {value : Except Failure α} (h : ∀ failure, value = .error failure → P failure) :
    Fails (liftM value : Flow α) P := by
  intro before failure after hrun
  exact h failure (runs_lift.mp hrun).1.symm

protected theorem get : Fails (get : Flow Session) P := by
  intro before failure after hrun
  cases (runs_get.mp hrun).1

theorem emit (event : Event) : Fails (emit event) P := by
  intro before failure after hrun
  cases (runs_modify.mp hrun).1

protected theorem bind {Q : α → Prop} (h : Fails flow P) (hgives : Gives flow Q)
    (h' : ∀ a, Q a → Fails (next a) P) : Fails (flow >>= next) P := by
  intro before failure after hrun
  rcases runs_bind.mp hrun with ⟨a, middle, hfirst, hrest⟩ | ⟨other, hfirst, heq⟩
  · exact h' a (hgives _ _ _ hfirst) _ _ _ hrest
  · cases heq
    exact h _ _ _ hfirst

/-- Each step fails like the whole. -/
theorem andThen (h : Fails flow P) (h' : ∀ a, Fails (next a) P) : Fails (flow >>= next) P :=
  .bind (Q := fun _ => True) h (fun _ _ _ _ => trivial) fun a _ => h' a

theorem foldlM {β : Type} {items : List α} {body : β → α → Flow β}
    (h : ∀ b item, Fails (body b item) P) (start : β) : Fails (items.foldlM body start) P := by
  induction items generalizing start with
  | nil => exact .pure _
  | cons item rest ih => exact .andThen (h start item) fun b => ih b

theorem log (level : LogLevel) (text : String) : Fails (Flow.log level text) P := by
  refine .andThen .get fun _ => ?_
  split
  · exact .emit _
  · exact .pure _

end Fails

/-- Logging a line adds to the events at most. -/
theorem runs_log (level : LogLevel) (text : String) (session : Session) :
    ∃ events, Runs (Flow.log level text) session (.ok ()) { session with events } := by
  by_cases h : (level != .debug || session.verbose) = true
  · refine ⟨session.events ++ [.log level text], runs_getThen.mpr ?_⟩
    rw [if_pos h]
    exact runs_modify.mpr ⟨rfl, rfl⟩
  · refine ⟨session.events, runs_getThen.mpr ?_⟩
    rw [if_neg h]
    exact runs_pure.mpr ⟨rfl, rfl⟩

/-- A line on a value adds to the events at most, whether the value can be shown or not. -/
theorem runs_logOn (level : LogLevel) (value : Json) (line : String → String) (session : Session) :
    ∃ events, Runs (Flow.logOn level value line) session (.ok ()) { session with events } := by
  unfold logOn
  split
  · exact runs_log level _ session
  · exact ⟨session.events, runs_pure.mpr ⟨rfl, rfl⟩⟩

theorem Fails.logOn {P : Failure → Prop} (level : LogLevel) (value : Json)
    (line : String → String) : Fails (Flow.logOn level value line) P := by
  unfold Flow.logOn
  split
  · exact .log level _
  · exact .pure _

theorem OnlyTalks.log (level : LogLevel) (text : String) : OnlyTalks (Flow.log level text) := by
  refine .bind .get fun _ => ?_
  split
  · exact .emit rfl
  · exact .pure _

theorem OnlyTalks.logOn (level : LogLevel) (value : Json) (line : String → String) :
    OnlyTalks (Flow.logOn level value line) := by
  unfold Flow.logOn
  split
  · exact .log level _
  · exact .pure _

/-! ## Doing -/

/-- What a run of the flow does and how it ends, where commands are answered by these rules. -/
def Does (rules : List CommandRule) (flow : Flow α)
    (course : List Event → Except Failure α → Prop) : Prop :=
  ∀ before result after, before.rules = rules → Runs flow before result after →
    ∃ deeds, Did before after deeds ∧ course deeds result

namespace Does

variable {rules : List CommandRule} {flow : Flow α} {next : α → Flow β}
  {course : List Event → Except Failure α → Prop} {whole : List Event → Except Failure β → Prop}

protected theorem pure {a : α} (h : course [] (.ok a)) : Does rules (pure a) course := by
  intro before result after _ hrun
  obtain ⟨rfl, rfl⟩ := runs_pure.mp hrun
  exact ⟨[], .refl _, h⟩

protected theorem throw {failure : Failure} (h : course [] (.error failure)) :
    Does rules (throw failure) course := by
  intro before result after _ hrun
  obtain ⟨rfl, rfl⟩ := runs_throw.mp hrun
  exact ⟨[], .refl _, h⟩

theorem mono {other : List Event → Except Failure α → Prop} (h : Does rules flow course)
    (himp : ∀ deeds result, course deeds result → other deeds result) :
    Does rules flow other := by
  intro before result after hrules hrun
  obtain ⟨deeds, hdid, hcourse⟩ := h _ _ _ hrules hrun
  exact ⟨deeds, hdid, himp _ _ hcourse⟩

theorem talk (h : OnlyTalks flow) (hcourse : ∀ result, course [] result) :
    Does rules flow course :=
  fun _ result _ _ hrun => ⟨[], h _ _ _ hrun, hcourse result⟩

/-- Talk that gives an answer. -/
theorem answer {P : α → Prop} (h : OnlyTalks flow) (hgives : Gives flow P)
    (hok : ∀ a, P a → course [] (.ok a)) (herror : ∀ failure, course [] (.error failure)) :
    Does rules flow course := by
  intro before result after _ hrun
  refine ⟨[], h _ _ _ hrun, ?_⟩
  cases result with
  | ok a => exact hok a (hgives _ _ _ hrun)
  | error failure => exact herror failure

/-- What comes first is the beginning of the whole course, and all of it where it fails. -/
protected theorem bind (h : Does rules flow course)
    (hok : ∀ a deeds, course deeds (.ok a) →
      Does rules (next a) fun more result => whole (deeds ++ more) result)
    (herror : ∀ failure deeds, course deeds (.error failure) → whole deeds (.error failure)) :
    Does rules (flow >>= next) whole := by
  intro before result after hrules hrun
  rcases runs_bind.mp hrun with ⟨a, middle, hfirst, hrest⟩ | ⟨failure, hfirst, rfl⟩
  · obtain ⟨deeds, hdid, hcourse⟩ := h _ _ _ hrules hfirst
    obtain ⟨more, hmore, hwhole⟩ := hok a deeds hcourse _ _ _ (hdid.rules.trans hrules) hrest
    exact ⟨deeds ++ more, hdid.trans hmore, hwhole⟩
  · obtain ⟨deeds, hdid, hcourse⟩ := h _ _ _ hrules hfirst
    exact ⟨deeds, hdid, herror failure deeds hcourse⟩

/-- Talk at the beginning is no part of the course. -/
theorem afterTalk {P : α → Prop} (h : OnlyTalks flow) (hgives : Gives flow P)
    (hok : ∀ a, P a → Does rules (next a) whole) (herror : ∀ failure, whole [] (.error failure)) :
    Does rules (flow >>= next) whole := by
  intro before result after hrules hrun
  rcases runs_bind.mp hrun with ⟨a, middle, hfirst, hrest⟩ | ⟨failure, hfirst, rfl⟩
  · have hdid := h _ _ _ hfirst
    obtain ⟨deeds, hmore, hwhole⟩ :=
      hok a (hgives _ _ _ hfirst) _ _ _ (hdid.rules.trans hrules) hrest
    exact ⟨deeds, hdid.trans hmore, hwhole⟩
  · exact ⟨[], h _ _ _ hfirst, herror failure⟩

/-- Talk at the beginning makes no difference, whatever it gives. -/
theorem afterAnyTalk (h : OnlyTalks flow) (hok : ∀ a, Does rules (next a) whole)
    (herror : ∀ failure, whole [] (.error failure)) : Does rules (flow >>= next) whole :=
  .afterTalk (P := fun _ => True) h (fun _ _ _ _ => trivial) (fun a _ => hok a) herror

/-- A notice neither fails nor is part of the course. -/
theorem afterNotice (h : OnlyTalks flow) (hsure : Fails flow fun _ => False)
    (hok : ∀ a, Does rules (next a) whole) : Does rules (flow >>= next) whole := by
  intro before result after hrules hrun
  rcases runs_bind.mp hrun with ⟨a, middle, hfirst, hrest⟩ | ⟨failure, hfirst, -⟩
  · have hdid := h _ _ _ hfirst
    obtain ⟨deeds, hmore, hwhole⟩ := hok a _ _ _ (hdid.rules.trans hrules) hrest
    exact ⟨deeds, hdid.trans hmore, hwhole⟩
  · exact (hsure _ _ _ hfirst).elim

protected theorem tryCatch {handler : Failure → Flow α}
    {whole : List Event → Except Failure α → Prop}
    (h : Does rules flow course) (hok : ∀ a deeds, course deeds (.ok a) → whole deeds (.ok a))
    (herror : ∀ failure deeds, course deeds (.error failure) →
      Does rules (handler failure) fun more result => whole (deeds ++ more) result) :
    Does rules (tryCatch flow handler) whole := by
  intro before result after hrules hrun
  rcases runs_tryCatch.mp hrun with ⟨a, hfirst, rfl⟩ | ⟨failure, middle, hfirst, hrest⟩
  · obtain ⟨deeds, hdid, hcourse⟩ := h _ _ _ hrules hfirst
    exact ⟨deeds, hdid, hok a deeds hcourse⟩
  · obtain ⟨deeds, hdid, hcourse⟩ := h _ _ _ hrules hfirst
    obtain ⟨more, hmore, hwhole⟩ :=
      herror failure deeds hcourse _ _ _ (hdid.rules.trans hrules) hrest
    exact ⟨deeds ++ more, hdid.trans hmore, hwhole⟩

theorem deed {event : Event} {next : Unit → Flow β} (h : event.isDeed = true)
    (hnext : Does rules (next ()) fun more result => whole (event :: more) result) :
    Does rules (Flow.emit event >>= next) whole := by
  intro before result after hrules hrun
  have hfirst : Did before { before with events := before.events ++ [event] } [event] :=
    ⟨rfl, rfl, rfl, [event], rfl, by simp [h]⟩
  obtain ⟨deeds, hdid, hwhole⟩ :=
    hnext _ _ _ (hfirst.rules.trans hrules) (runs_modifyThen.mp hrun)
  exact ⟨_, hfirst.trans hdid, hwhole⟩

theorem getThen {next : Session → Flow β}
    (h : ∀ session, session.rules = rules → Does rules (next session) whole) :
    Does rules (get >>= next) whole := by
  intro before result after hrules hrun
  exact h before hrules _ _ _ hrules (runs_getThen.mp hrun)

/-- A command is run in any case; how it ends is for the rules to say. -/
theorem command (words : List String) :
    Does rules (Flow.command words) fun deeds result => deeds = [.command words] ∧
      ∀ code output errors, result = .ok (code, output, errors) →
        Outcome.ofRules rules words = .exited code output errors := by
  refine .deed rfl (.getThen fun session hrules => ?_)
  rw [hrules]
  cases Outcome.ofRules rules words with
  | notInstalled => exact .throw ⟨rfl, by simp⟩
  | exited code output errors =>
    refine .pure ⟨rfl, fun _ _ _ heq => ?_⟩
    cases heq
    rfl

/-- A request is sent in any case. -/
theorem send (request : Request) :
    Does rules (Flow.send request) fun deeds _ => deeds = [.request request] := by
  refine .deed rfl (.getThen fun session _ => ?_)
  split
  · exact .pure rfl
  · exact .talk (.bind (.takeReply _) fun _ => .pure _) fun _ => rfl

end Does

end Flow

end CommitStyle
