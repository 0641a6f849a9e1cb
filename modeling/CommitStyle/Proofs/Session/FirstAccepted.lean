import CommitStyle.Proofs.Session.Talking

/-! The first answer that is accepted. A question goes over the lines in order: each line
is refused with one notice until one holds an answer that passes, and the question is
asked once for every line that is read. The interrupt key and the end of the input break
it off, and so does a fault that cannot be shown; a message that cannot be shown fails
before anything is asked. -/

namespace CommitStyle.Dialog

open CommitStyle.Flow CommitStyle.Markup

variable {α : Type} {question : String} {secret : Bool}

/-! ## Lines one by one -/

/-- What a line comes to. -/
inductive Verdict (α : Type)
  | accepted (answer : α)
  /-- The line is refused with a notice. -/
  | refused (notice : Event)
  /-- The line would be refused, but the notice cannot be shown. -/
  | untold (failure : Failure)

/-- An answer stands, and a refused line is asked for again. -/
def settleAs : Verdict α → Flow (Option α)
  | .accepted answer => pure (some answer)
  | .refused notice => do
    Flow.emit notice
    return none
  | .untold failure => throw failure

/-- How asking ends at the lines behind the refused ones, and the lines that it leaves. -/
inductive Concludes (verdict : String → Verdict α) :
    List (Option String) → Except Failure α → List (Option String) → Prop
  | exhausted : Concludes verdict [] (.error .inputExhausted) []
  | interrupted (rest : List (Option String)) :
      Concludes verdict (none :: rest) (.error .interrupted) rest
  | answered {line : String} {answer : α} (h : verdict line = .accepted answer)
      (rest : List (Option String)) : Concludes verdict (some line :: rest) (.ok answer) rest
  | untold {line : String} {failure : Failure} (h : verdict line = .untold failure)
      (rest : List (Option String)) : Concludes verdict (some line :: rest) (.error failure) rest

/-- The events of a question for which lines were refused with these notices before it ended. -/
def askedOver (question : String) (secret : Bool) (refused : List (String × Event)) : List Event :=
  refused.flatMap (fun entry => [.ask question secret, entry.2]) ++ [.ask question secret]

/-- The flow asks the question over the lines of the session: those in front are refused, each with
its own notice, and what is behind them ends it. -/
def AsksOver (question : String) (secret : Bool) (verdict : String → Verdict α) (flow : Flow α)
    (before : Session) : Prop :=
  ∃ refused behind result left,
    before.input = refused.map (fun entry => some entry.1) ++ behind ∧
    (∀ entry ∈ refused, verdict entry.1 = .refused entry.2) ∧
    Concludes verdict behind result left ∧
    Runs flow before result
      { before with input := left, events := before.events ++ askedOver question secret refused }

/-- The lines that are gone through have to be those that are left in the session. -/
theorem asksOver_askLines (verdict : String → Verdict α) (lines : List (Option String))
    (before : Session) (hlines : before.input = lines) :
    AsksOver question secret verdict
      (askLines question secret (fun line => settleAs (verdict line)) lines) before := by
  induction lines generalizing before with
  | nil =>
    refine ⟨[], [], _, [], hlines, by simp, .exhausted, runs_askLines_nil.mpr ⟨rfl, ?_⟩⟩
    rw [hlines]
    rfl
  | cons line? rest ih =>
    cases line? with
    | none =>
      refine ⟨[], none :: rest, _, rest, hlines, by simp, .interrupted rest, ?_⟩
      exact runs_askLines_none.mpr ⟨rfl, rfl⟩
    | some line =>
      cases hverdict : verdict line with
      | accepted answer =>
        refine ⟨[], some line :: rest, _, rest, hlines, by simp, .answered hverdict rest, ?_⟩
        have hsettle : Runs (settleAs (verdict line)) (asked question secret rest before)
            (.ok (some answer)) (asked question secret rest before) := by
          rw [hverdict]
          exact runs_pure.mpr ⟨rfl, rfl⟩
        exact runs_askLines_some.mpr (.inl ⟨answer, hsettle, rfl⟩)
      | untold failure =>
        refine ⟨[], some line :: rest, _, rest, hlines, by simp, .untold hverdict rest, ?_⟩
        have hsettle : Runs (settleAs (verdict line)) (asked question secret rest before)
            (.error failure) (asked question secret rest before) := by
          rw [hverdict]
          exact runs_throw.mpr ⟨rfl, rfl⟩
        exact runs_askLines_some.mpr (.inr (.inr ⟨failure, hsettle, rfl⟩))
      | refused notice =>
        -- the question comes again in the session in which the notice was given
        let told : Session :=
          { before with
            input := rest, events := before.events ++ [.ask question secret] ++ [notice] }
        obtain ⟨refused, behind, result, left, hrest, hrefused, hend, hrun⟩ := ih told rfl
        have hsettle : Runs (settleAs (verdict line)) (asked question secret rest before)
            (.ok none) told := by
          rw [hverdict]
          exact runs_modifyThen.mpr (runs_pure.mpr ⟨rfl, rfl⟩)
        refine ⟨(line, notice) :: refused, behind, result, left, ?_, ?_, hend, ?_⟩
        · rw [hlines, show rest = _ from hrest]
          rfl
        · exact List.forall_mem_cons.mpr ⟨hverdict, hrefused⟩
        · refine runs_askLines_some.mpr (.inr (.inl ⟨told, hsettle, ?_⟩))
          simpa [told, askedOver] using hrun

theorem asksOver_askUntil (verdict : String → Verdict α) (before : Session) :
    AsksOver question secret verdict
      (askUntil question secret fun line => settleAs (verdict line)) before :=
  asksOver_askLines verdict before.input before rfl

/-! ## Texts and whole numbers -/

/-- The text that tells what is wrong with an answer. -/
def faultNotice (fault : String) : String := notice "bold red" "❌" fault

/-- An answer stands unless something is wrong with it; then that is told, if it can be shown. -/
def judged (fault? : α → Option String) (answer : α) : Verdict α :=
  match fault? answer with
  | none => .accepted answer
  | some fault =>
    match plain (faultNotice fault) with
    | .ok _ => .refused (.print (faultNotice fault))
    | .error misfit => .untold (.markup misfit)

/-- The answer of a line: its text without the white space around it. A line that is quite empty
stands for the default, if there is one. -/
def textAnswer (default : Option String) (line : String) : String :=
  Text.strip (if line.isEmpty then default.getD line else line)

/-- The number of a line. A line that is quite empty stands for the default, if there is one. -/
def wholeAnswer? (default : Option Int) (line : String) : Option Int :=
  match line.isEmpty, default with
  | true, some value => some value
  | _, _ => (Number.readWhole (Text.strip line)).toOption

/-- A line that is no number is refused before it is judged. -/
def wholeVerdict (fault? : Int → Option String) (default : Option Int) (line : String) :
    Verdict Int :=
  match wholeAnswer? default line with
  | some value => judged fault? value
  | none => .refused (.refused "[prompt.invalid]Please enter a valid integer number")

/-- The question that asks for a number. -/
def wholePrompt (message : String) (default : Option Int) : Except Failure String :=
  prompt message "" (default.map toString)

theorem settleBy_refusing (fault? : α → Option String) (answer : α) :
    settleBy (refusing fault?) answer = settleAs (judged fault? answer) := by
  unfold settleBy refusing judged
  rw [pure_bind]
  cases fault? answer with
  | none => rfl
  | some fault =>
    show (tell (faultNotice fault) >>= fun _ => pure none) = _
    cases hshown : plain (faultNotice fault) with
    | ok text =>
      rw [tell_eq_emit ⟨text, hshown⟩]
      simp only [hshown]
      rfl
    | error misfit =>
      rw [tell_eq_throw hshown]
      simp only [hshown]
      rfl

theorem defaultText_whole (text : String) :
    defaultText (.str (.whole text)) = pure (Text.strip text) := by
  unfold defaultText
  split
  · rename_i hempty
    have htext : text = "" := by simpa [Json.isTruthy, JsonText.isEmpty] using hempty
    rw [htext]
    rfl
  · rfl

theorem textSettle_refusing (fault? : String → Option String) (default : Option String)
    (line : String) :
    textSettle (refusing fault?) (default.map fun text => .str (.whole text)) line =
      settleAs (judged fault? (textAnswer default line)) := by
  unfold textSettle textAnswer
  rw [← settleBy_refusing]
  cases line.isEmpty with
  | false =>
    rw [if_neg (by simp)]
    rfl
  | true =>
    rw [if_pos rfl]
    cases default with
    | none => rfl
    | some text => exact congrArg (· >>= _) (defaultText_whole text)

/-! ## Asking -/

/-- A message that cannot be shown fails at once; otherwise the question is asked over the lines. -/
def AsksShown (shown : Except Failure String) (verdict : String → Verdict α) (flow : Flow α)
    (before : Session) : Prop :=
  match shown with
  | .error failure => Runs flow before (.error failure) before
  | .ok question => AsksOver question false verdict flow before

theorem asksShown_prompt {shown : Except Failure String} {settle : String → Flow (Option α)}
    {verdict : String → Verdict α} (hsettle : ∀ line, settle line = settleAs (verdict line))
    (before : Session) :
    AsksShown shown verdict
      ((liftM shown : Flow String) >>= fun question => askUntil question false settle) before := by
  obtain rfl : settle = fun line => settleAs (verdict line) := funext hsettle
  cases shown with
  | error failure => exact (runs_lift.mpr ⟨rfl, rfl⟩).stops
  | ok question =>
    have hasks : AsksOver question false verdict
        (askUntil question false fun line => settleAs (verdict line)) before :=
      asksOver_askUntil verdict before
    obtain ⟨refused, behind, result, left, hinput, hrefused, hend, hrun⟩ := hasks
    exact ⟨refused, behind, result, left, hinput, hrefused, hend,
      (runs_lift.mpr ⟨rfl, rfl⟩).andThen hrun⟩

theorem asksShown_askText (message : String) (fault? : String → Option String)
    (default : Option String) (before : Session) :
    AsksShown (textPrompt message (default.map fun text => .str (.whole text)))
      (fun line => judged fault? (textAnswer default line))
      (askText message (refusing fault?) (default.map fun text => .str (.whole text))) before :=
  asksShown_prompt (textSettle_refusing fault? default) before

theorem asksShown_askWhole (message : String) (fault? : Int → Option String)
    (default : Option Int) (before : Session) :
    AsksShown (wholePrompt message default) (wholeVerdict fault? default)
      (askWhole message (refusing fault?) default) before := by
  refine asksShown_prompt (fun line => ?_) before
  unfold wholeVerdict wholeAnswer?
  generalize Number.readWhole (Text.strip line) = typed
  cases line.isEmpty with
  | true =>
    cases default with
    | some value => exact settleBy_refusing fault? value
    | none =>
      cases typed with
      | ok value => exact settleBy_refusing fault? value
      | error _ => rfl
  | false =>
    cases typed with
    | ok value => exact settleBy_refusing fault? value
    | error _ => rfl

section Untold

variable {message line : String} {failure : Failure} {before : Session}
  (fault? : String → Option String) (default : Option String)

/-- A message that cannot be shown fails before a line is read. -/
theorem askText_unasked (before : Session)
    (h : textPrompt message (default.map fun text => .str (.whole text)) = .error failure) :
    Runs (askText message (refusing fault?) (default.map fun text => .str (.whole text))) before
      (.error failure) before := by
  have hasks := asksShown_askText message fault? default before
  unfold AsksShown at hasks
  rwa [h] at hasks

/-- A fault that cannot be told ends the question, whatever lines there are behind it. -/
theorem askText_untold {rest : List (Option String)} (hinput : before.input = some line :: rest)
    (hprompt : textPrompt message (default.map fun text => .str (.whole text)) = .ok question)
    (huntold : judged fault? (textAnswer default line) = .untold failure) :
    ∃ after, Runs (askText message (refusing fault?)
      (default.map fun text => .str (.whole text))) before (.error failure) after := by
  have hasks := asksShown_askText message fault? default before
  unfold AsksShown at hasks
  rw [hprompt] at hasks
  obtain ⟨refused, behind, result, left, hlines, hrefused, hend, hrun⟩ := hasks
  rw [hinput] at hlines
  cases refused with
  | cons entry others =>
    -- the line is not refused, as its notice is not given
    have hverdict := hrefused entry List.mem_cons_self
    obtain rfl : line = entry.1 := Option.some.inj (List.cons.inj hlines).1
    cases huntold.symm.trans hverdict
  | nil =>
    obtain rfl : some line :: rest = behind := hlines
    cases hend with
    | answered h _ => cases huntold.symm.trans h
    | untold h _ =>
      cases huntold.symm.trans h
      exact ⟨_, hrun⟩

end Untold

/-- **The first answer that passes is taken, and nothing else.** For every test, default and list of
lines, a text is the first line's, or the default's where the line is quite empty, in which the
test finds no fault; so is a whole number, among the lines that hold one. The lines up to it are
read, each of the others was told its fault, or that it is no number, and the interrupt key or the
end of the input breaks the question off. A message or a fault that is no text with fitting tags
is the one other end: the first fails before any line is read, the second behind the line that has
it. Neither happens to a message and to faults without an opening bracket. No answer that is given
has a fault, the default included. -/
theorem ask_first_accepted (message : String) (before : Session) :
    (∀ (fault? : String → Option String) (default : Option String),
      AsksShown (textPrompt message (default.map fun text => .str (.whole text)))
        (fun line => judged fault? (textAnswer default line))
        (askText message (refusing fault?) (default.map fun text => .str (.whole text))) before ∧
      ∀ answer after, Runs (askText message (refusing fault?)
        (default.map fun text => .str (.whole text))) before (.ok answer) after →
          fault? answer = none) ∧
    (∀ (fault? : Int → Option String) (default : Option Int),
      AsksShown (wholePrompt message default) (wholeVerdict fault? default)
        (askWhole message (refusing fault?) default) before ∧
      ∀ value after, Runs (askWhole message (refusing fault?) default) before (.ok value) after →
        fault? value = none) ∧
    ('[' ∉ message.toList → (∀ default, ∃ question, textPrompt message default = .ok question) ∧
      ∀ default, ∃ question, wholePrompt message default = .ok question) ∧
    ∀ fault : String, '[' ∉ fault.toList → Shows (faultNotice fault) := by
  refine ⟨fun fault? default => ⟨asksShown_askText message fault? default before, ?_⟩,
    fun fault? default => ⟨asksShown_askWhole message fault? default before, ?_⟩,
    fun huntagged => ⟨fun _ => prompt_untagged huntagged _ _, fun _ => prompt_untagged huntagged _ _⟩,
    fun fault huntagged => shows_notice isTag_error (by decide) huntagged⟩
  · intro answer after hrun
    exact gives_askText (gives_refusing fault?) _ _ _ _ hrun
  · intro value after hrun
    exact gives_askWhole (gives_refusing fault?) _ _ _ _ hrun

/-- A line that the test accepts is not asked for where the message has a tag that closes nothing;
and where the test says such a thing of a line, the next one is not asked for. -/
theorem ask_unshown :
    (∃ misfit, Runs (askText "[/b]?" (refusing fun _ => none)) { input := [some "x"] }
      (.error (.markup misfit)) { input := [some "x"] }) ∧
    ∃ misfit after, Runs (askText "Name?" (refusing fun name =>
        if name = "y" then none else some "[/b]")) { input := [some "x", some "y"] }
      (.error (.markup misfit)) after := by
  have hmessage : ¬ Shows "[/b]?" := by decide +kernel
  have hnotice : ¬ Shows (faultNotice "[/b]") := by decide +kernel
  obtain ⟨misfit, hmisfit⟩ := fault_of_not_shows hmessage
  obtain ⟨other, hother⟩ := fault_of_not_shows hnotice
  have hunasked : textPrompt "[/b]?" none = .error (.markup misfit) := by
    unfold textPrompt prompt
    rw [hmisfit]
    rfl
  have hprompt : ∃ question, textPrompt "Name?" none = .ok question := by
    obtain ⟨text, htext⟩ : Shows "Name?" := shows_untagged (by decide)
    unfold textPrompt prompt
    rw [htext]
    exact ⟨_, rfl⟩
  obtain ⟨question, hprompt⟩ := hprompt
  have huntold : judged (fun name => if name = "y" then none else some "[/b]")
      (textAnswer none "x") = .untold (.markup other) := by
    have hanswer : textAnswer none "x" = "x" := by decide
    rw [hanswer, judged, if_neg (by decide)]
    simp only [hother]
  have hfirst := askText_unasked (fun _ => none) none { input := [some "x"] } hunasked
  have hinput : ({ input := [some "x", some "y"] } : Session).input = [some "x", some "y"] := rfl
  have hsecond := askText_untold (fun name => if name = "y" then none else some "[/b]") none
    hinput hprompt huntold
  exact ⟨⟨misfit, hfirst⟩, other, hsecond⟩

end CommitStyle.Dialog
