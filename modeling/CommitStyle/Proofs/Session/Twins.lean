import CommitStyle.Proofs.Session.Running
import Mathlib.Data.List.Forall2

/-! Two runs side by side. Sessions are twins if nothing tells them apart but their
events, which are related one by one. Flows go in step if from twins they come to the
same result and leave twins behind; that a secret makes no difference is said in this
way of a flow that is given one secret and of the same flow that is given another. -/

namespace CommitStyle

/-- The sessions agree in all but their events, which are related in order. -/
structure Twins (alike : Event → Event → Prop) (session twin : Session) : Prop where
  events : List.Forall₂ alike session.events twin.events
  rest : twin = { session with events := twin.events }

namespace Twins

variable {alike : Event → Event → Prop} {session twin : Session}

theorem refl (hrefl : ∀ event, alike event event) (session : Session) :
    Twins alike session session :=
  ⟨List.forall₂_same.mpr fun event _ => hrefl event, rfl⟩

theorem add {event event' : Event} (h : Twins alike session twin) (halike : alike event event') :
    Twins alike { session with events := session.events ++ [event] }
      { twin with events := twin.events ++ [event'] } := by
  refine ⟨List.rel_append h.events (.cons halike .nil), ?_⟩
  rw [h.rest]

theorem takeReply (h : Twins alike session twin) (rest : List Reply) :
    Twins alike { session with replies := rest } { twin with replies := rest } := by
  refine ⟨h.events, ?_⟩
  rw [h.rest]

end Twins

namespace Flow

variable {α β : Type} {alike : Event → Event → Prop}

/-- Twins stay twins, and the flows give the same or fail in the same way. -/
def InStep (alike : Event → Event → Prop) (flow other : Flow α) : Prop :=
  ∀ session twin, Twins alike session twin →
    (flow.runOn session).1 = (other.runOn twin).1 ∧
      Twins alike (flow.runOn session).2 (other.runOn twin).2

namespace InStep

variable {flow other : Flow α} {next otherNext : α → Flow β}

protected theorem pure (a : α) : InStep alike (pure a) (pure a) := fun _ _ h => ⟨rfl, h⟩

protected theorem throw (failure : Failure) :
    InStep alike (throw failure : Flow α) (throw failure) := fun _ _ h => ⟨rfl, h⟩

theorem lift (value : Except Failure α) : InStep alike (liftM value) (liftM value) := by
  cases value with
  | ok a => exact .pure a
  | error failure => exact .throw failure

protected theorem bind (h : InStep alike flow other)
    (h' : ∀ a, InStep alike (next a) (otherNext a)) :
    InStep alike (flow >>= next) (other >>= otherNext) := by
  intro session twin htwins
  obtain ⟨hresult, hafter⟩ := h session twin htwins
  rw [runOn_bind, runOn_bind]
  cases hflow : flow.runOn session with
  | mk result middle =>
    cases hother : other.runOn twin with
    | mk result' middle' =>
      rw [hflow, hother] at hresult hafter
      cases hresult
      cases result with
      | ok a => exact h' a middle middle' hafter
      | error failure => exact ⟨rfl, hafter⟩

theorem getThen {next otherNext : Session → Flow β}
    (h : ∀ session twin, Twins alike session twin →
      InStep alike (next session) (otherNext twin)) :
    InStep alike (get >>= next) (get >>= otherNext) :=
  fun session twin htwins => h session twin htwins session twin htwins

theorem emit {event event' : Event} (h : alike event event') :
    InStep alike (Flow.emit event) (Flow.emit event') := fun _ _ htwins => ⟨rfl, htwins.add h⟩

theorem takeReply (rest : List Reply) :
    InStep alike (modify fun session => { session with replies := rest } : Flow Unit)
      (modify fun session => { session with replies := rest }) :=
  fun _ _ htwins => ⟨rfl, htwins.takeReply rest⟩

theorem foldlM {items : List α} {body : β → α → Flow β}
    (h : ∀ b item, InStep alike (body b item) (body b item)) (start : β) :
    InStep alike (items.foldlM body start) (items.foldlM body start) := by
  induction items generalizing start with
  | nil => exact .pure start
  | cons item rest ih => exact .bind (h start item) fun b => ih b

theorem log (hrefl : ∀ event, alike event event) (level : LogLevel) (text : String) :
    InStep alike (Flow.log level text) (Flow.log level text) := by
  refine .getThen fun session twin htwins => ?_
  rw [htwins.rest]
  split
  · exact .emit (hrefl _)
  · exact .pure _

theorem logOn (hrefl : ∀ event, alike event event) (level : LogLevel) (value : Json)
    (line : String → String) :
    InStep alike (Flow.logOn level value line) (Flow.logOn level value line) := by
  unfold Flow.logOn
  split
  · exact .log hrefl level _
  · exact .pure _

/-- Related requests get the same reply. -/
theorem send {request request' : Request} (h : alike (.request request) (.request request')) :
    InStep alike (Flow.send request) (Flow.send request') := by
  refine .bind (.emit h) fun _ => .getThen fun session twin htwins => ?_
  rw [htwins.rest]
  cases session.replies with
  | nil => exact .pure _
  | cons reply rest => exact InStep.bind (.takeReply rest) fun _ => .pure reply

end InStep

end Flow

end CommitStyle
