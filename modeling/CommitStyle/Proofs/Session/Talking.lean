import CommitStyle.Flow.Selection
import CommitStyle.Proofs.Session.Telling

/-! Kinds of questions. What a question gives is what was made of some line by the
question's own test, however many lines were refused before, and the last line that
was read says what it is. -/

namespace CommitStyle

open CommitStyle.Flow

namespace Dialog

variable {α β : Type} {question : String} {secret : Bool} {settle : String → Flow (Option α)}
  {fits : String → α → Prop}

/-! ## Steps that only tell -/

theorem onlyNotes_refuse (notice : String) : OnlyNotes (refuse notice : Flow (Option α)) :=
  .bind (.emit rfl rfl) fun _ => .pure _

theorem onlyNotes_output (text : String) : OnlyNotes (output text) := by
  unfold output
  split
  · exact .pure _
  · exact .emit rfl rfl

theorem onlyNotes_refusing (fault? : α → Option String) (answer : α) :
    OnlyNotes (refusing fault? answer) := .pure _

theorem onlyNotes_anything (answer : α) : OnlyNotes (anything answer) := .pure _

theorem onlyNotes_settleBy {judge : Judge α β} (h : ∀ answer, OnlyNotes (judge answer))
    (answer : α) : OnlyNotes (settleBy judge answer) := by
  refine .bind (h answer) fun verdict => ?_
  split
  · exact .bind (onlyNotes_tell _) fun _ => .pure _
  · exact .pure _

theorem onlyNotes_defaultText (default : Json) : OnlyNotes (defaultText default) := by
  unfold defaultText
  split
  · exact .pure _
  split
  · exact .pure _
  · exact .throw _

/-! ## What a question gives -/

/-- An answer comes from the test of some line. -/
theorem gives_askLines {prompt : String} {secret : Bool} {settle : String → Flow (Option α)}
    {P : α → Prop} (h : ∀ line, Gives (settle line) fun answer? => ∀ a, answer? = some a → P a)
    (lines : List (Option String)) : Gives (askLines prompt secret settle lines) P := by
  induction lines with
  | nil => exact .last fun _ => .throw _
  | cons line? rest ih =>
    refine .last fun _ => .last fun _ => ?_
    cases line? with
    | none => exact .throw _
    | some line =>
      refine .bind (h line) fun answer? hanswer => ?_
      cases answer? with
      | none => exact ih
      | some answer => exact .pure (hanswer answer rfl)

theorem gives_askUntil {prompt : String} {secret : Bool} {settle : String → Flow (Option α)}
    {P : α → Prop} (h : ∀ line, Gives (settle line) fun answer? => ∀ a, answer? = some a → P a) :
    Gives (askUntil prompt secret settle) P :=
  .last fun _ => gives_askLines h _

/-- A choice is the value of an entry of the list. -/
theorem gives_choose (message : String) (choices : List (String × String))
    (default : Option String) :
    Gives (choose message choices default) fun value => ∃ choice ∈ choices, value = choice.1 := by
  refine .last fun _ => .last fun _ => .last fun _ => .last fun number => ?_
  split
  · rename_i choice hchoice
    exact .pure ⟨choice, List.mem_of_getElem? hchoice, rfl⟩
  · exact .throw _

theorem gives_settleBy {judge : Judge α β} {P : β → Prop} {answer : α}
    (h : Gives (judge answer) fun verdict => ∀ b, verdict = .ok b → P b) :
    Gives (settleBy judge answer) fun made? => ∀ b, made? = some b → P b := by
  refine .bind h fun verdict hverdict => ?_
  cases verdict with
  | error fault => exact .last fun _ => .pure (by simp)
  | ok made =>
    refine .pure fun b hb => ?_
    exact hverdict b (by rw [Option.some.inj hb])

theorem gives_askText {message : String} {judge : Judge String β} {P : β → Prop}
    (h : ∀ answer, Gives (judge answer) fun verdict => ∀ b, verdict = .ok b → P b)
    (default : Option Json) : Gives (askText message judge default) P := by
  refine .last fun _ => gives_askUntil fun line => ?_
  dsimp only
  split
  · exact .last fun answer => gives_settleBy (h answer)
  · exact gives_settleBy (h _)

theorem gives_askWhole {message : String} {judge : Judge Int β} {P : β → Prop}
    (h : ∀ answer, Gives (judge answer) fun verdict => ∀ b, verdict = .ok b → P b)
    (default : Option Int) : Gives (askWhole message judge default) P := by
  refine .last fun _ => gives_askUntil fun line => ?_
  split
  · exact gives_settleBy (h _)
  split
  · exact gives_settleBy (h _)
  · exact .last fun _ => .pure (by simp)

/-- What stands has no fault. -/
theorem gives_refusing (fault? : α → Option String) (answer : α) :
    Gives (refusing fault? answer) fun verdict => ∀ a, verdict = .ok a → fault? a = none := by
  refine .pure fun a ha => ?_
  split at ha
  · cases ha
  · cases ha
    assumption

/-! ## Yes or no -/

section Confirm

variable {message : String} {default : Bool}

/-- What a line says to a question for yes or no. -/
def saysYes (default : Bool) (line : String) : Bool :=
  if line.isEmpty then default else Text.lower (Text.strip line) == "y"

/-- How a line settles a question for yes or no. -/
def confirmSettle (default : Bool) (line : String) : Flow (Option Bool) := do
  if line.isEmpty then return some default
  else if Text.lower (Text.strip line) == "y" then return some true
  else if Text.lower (Text.strip line) == "n" then return some false
  else refuse "[prompt.invalid]Please enter Y or N"

theorem onlyNotes_confirmSettle (line : String) : OnlyNotes (confirmSettle default line) := by
  unfold confirmSettle
  split
  · exact .pure _
  split
  · exact .pure _
  split
  · exact .pure _
  · exact onlyNotes_refuse _

theorem gives_confirmSettle (line : String) :
    Gives (confirmSettle default line) fun answer? =>
      ∀ answer, answer? = some answer → answer = saysYes default line := by
  unfold confirmSettle saysYes
  split
  · exact .pure (by simp)
  split
  · rename_i hyes
    exact .pure (by simp [hyes])
  split
  · rename_i hother _
    exact .pure (by simp [hother])
  · exact .last fun _ => .pure (by simp)

/-- The question that asks for yes or no. -/
def confirmPrompt (message : String) (default : Bool) : Except Failure String :=
  prompt s!"\n{message}" " [y/n]" (some (if default then "y" else "n"))

theorem asks_confirm (hquestion : confirmPrompt message default = .ok question) :
    Asks question (confirm message default) fun line answer => answer = saysYes default line :=
  asks_prompt hquestion (asks_askUntil onlyNotes_confirmSettle gives_confirmSettle)

theorem onlyConverses_confirm (message : String) (default : Bool) :
    OnlyConverses (confirm message default) :=
  .bind (.lift _) fun _ => onlyConverses_askUntil onlyNotes_confirmSettle

end Confirm

/-! ## Choices, texts and numbers -/

theorem onlyConverses_choose (message : String) (choices : List (String × String))
    (default : Option String) : OnlyConverses (choose message choices default) := by
  refine .bind (onlyNotes_tell _).converses fun _ => ?_
  refine .bind (.forM fun _ => (onlyNotes_tell _).converses) fun _ => ?_
  refine .bind (.lift _) fun question => .bind (onlyConverses_askUntil fun line => ?_) fun _ => ?_
  · split
    · exact .pure _
    split
    · exact .pure _
    · exact onlyNotes_refuse _
  · split
    · exact .pure _
    · exact .throw _

/-- The text that a line stands for is judged. -/
def textSettle (judge : Judge String β) (default : Option Json) (line : String) :
    Flow (Option β) := do
  let answer ← match line.isEmpty, default with
    | true, some value => defaultText value
    | _, _ => pure (Text.strip line)
  settleBy judge answer

theorem onlyNotes_textSettle {judge : Judge String β} (h : ∀ answer, OnlyNotes (judge answer))
    (default : Option Json) (line : String) : OnlyNotes (textSettle judge default line) := by
  unfold textSettle
  dsimp only
  split
  · exact .bind (onlyNotes_defaultText _) fun answer => onlyNotes_settleBy h answer
  · exact onlyNotes_settleBy h _

/-- The text that a default stands for, if it stands for one. -/
def textOfDefault (default : Json) : Option String :=
  if !default.isTruthy then some ""
  else match default with
    | .str text => some (Text.strip text.toString)
    | _ => none

/-- The text that a line stands for; an empty one stands for the default. -/
def typedText (default : Option Json) (line : String) : Option String :=
  match line.isEmpty, default with
  | true, some value => textOfDefault value
  | _, _ => some (Text.strip line)

theorem gives_defaultText (default : Json) :
    Gives (defaultText default) fun answer => textOfDefault default = some answer := by
  unfold defaultText textOfDefault
  split
  · exact .pure rfl
  split
  · exact .pure rfl
  · exact .throw _

/-- What is made of a line is made of the text that it stands for. -/
theorem gives_textSettle {judge : Judge String β} {fits : String → β → Prop}
    (h : ∀ answer, Gives (judge answer) fun verdict =>
      ∀ made, verdict = .ok made → fits answer made)
    (default : Option Json) (line : String) :
    Gives (textSettle judge default line) fun made? => ∀ made, made? = some made →
      ∃ answer, typedText default line = some answer ∧ fits answer made := by
  have hsettle {answer : String} (hanswer : typedText default line = some answer) :
      Gives (settleBy judge answer) fun made? => ∀ made, made? = some made →
        ∃ answer, typedText default line = some answer ∧ fits answer made :=
    gives_settleBy fun _ _ _ hrun made hmade => ⟨answer, hanswer, h answer _ _ _ hrun made hmade⟩
  unfold textSettle
  dsimp only
  split
  · rename_i value hempty
    refine .bind (gives_defaultText value) fun answer hanswer => hsettle ?_
    simpa only [typedText, hempty] using hanswer
  · rename_i hother
    refine hsettle ?_
    unfold typedText
    split
    · exact absurd rfl (hother _ ‹_›)
    · rfl

/-- The question that asks for a text; a default is shown if it is a text. -/
def textPrompt (message : String) (default : Option Json) : Except Failure String :=
  prompt message "" (match default with
    | some (.str text) => some text.toString
    | _ => none)

theorem asks_askText {message : String} {default : Option Json} {judge : Judge String β}
    {fits : String → β → Prop} (hquestion : textPrompt message default = .ok question)
    (hnotes : ∀ answer, OnlyNotes (judge answer))
    (hfits : ∀ answer, Gives (judge answer) fun verdict =>
      ∀ made, verdict = .ok made → fits answer made) :
    Asks question (askText message judge default) fun line made =>
      ∃ answer, typedText default line = some answer ∧ fits answer made :=
  asks_prompt hquestion
    (asks_askUntil (onlyNotes_textSettle hnotes default) (gives_textSettle hfits default))

theorem onlyConverses_askText (message : String) {judge : Judge String β}
    (h : ∀ answer, OnlyNotes (judge answer)) (default : Option Json) :
    OnlyConverses (askText message judge default) :=
  .bind (.lift _) fun _ => onlyConverses_askUntil (onlyNotes_textSettle h default)

end Dialog

namespace Flow.Selection

theorem onlyConverses_chooseScope? (config : Config) (needsScope : Bool) :
    OnlyConverses (chooseScope? config needsScope) := by
  unfold chooseScope?
  split
  · exact .bind (Dialog.onlyConverses_choose _ _ _) fun _ => .pure _
  · exact .pure _

theorem onlyConverses_askFields (pattern : Option Pattern) (inBranch : Bool) :
    OnlyConverses (askFields pattern inBranch) :=
  .mapM fun _ => .bind (Dialog.onlyConverses_askText _ (Dialog.onlyNotes_refusing _) _) fun _ =>
    .pure _

end Flow.Selection

end CommitStyle
