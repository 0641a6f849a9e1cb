import CommitStyle.Number.Whole
import CommitStyle.Session.Basic
import CommitStyle.Text.Case

/-! Talking to the user: notices, and questions that are asked again until the
answer will do. Every question reads one line for each time it is asked, so a
question ends at the latest when no line is left. -/

namespace CommitStyle.Dialog

/-! ## Notices -/

/-- Prints a text with tags. A text whose tags do not fit is not printed, and fails. -/
def tell (markup : String) : Flow Unit := do
  let _ ← (Markup.plain markup).mapError Failure.markup
  Flow.emit (.print markup)

/-- A notice in its colour, with its sign. What the message says is taken for tags like the rest. -/
def notice (style sign message : String) : String := s!"\n[{style}]{sign} {message}[/{style}]"

def success (message : String) : Flow Unit := tell (notice "bold green" "✅" message)

def error (message : String) : Flow Unit := tell (notice "bold red" "❌" message)

def info (message : String) : Flow Unit := tell (notice "bold blue" "ℹ️" message)

def warning (message : String) : Flow Unit := tell (notice "bold yellow" "⚠️" message)

def aside (message : String) : Flow Unit := tell s!"[dim]{message}[/dim]"

/-- The details of the last failure; there has to be one. -/
def details (lastFailure : Option Failure) : Flow Unit :=
  match lastFailure with
  | some failure => Flow.emit (.details failure)
  | none => throw .nothingFailed

def title (text : String) (label : String := "Commit title") : Flow Unit :=
  Flow.emit (.panel (Text.undisrupted text) label)

/-- What a command wrote, if it wrote anything but white space. -/
def output (text : String) : Flow Unit :=
  if Text.isBlankText text then pure ()
  else Flow.emit (.output (Text.undisrupted (Text.stripEnd text)))

/-! ## Questions -/

/-- Asks until an answer is settled; `lines` are those still to be typed. -/
def askLines {α : Type} (prompt : String) (secret : Bool) (settle : String → Flow (Option α)) :
    (lines : List (Option String)) → Flow α
  | [] => do
    Flow.emit (.ask prompt secret)
    throw .inputExhausted
  | line? :: rest => do
    Flow.emit (.ask prompt secret)
    modify fun session => { session with input := rest }
    match line? with
    | none => throw .interrupted
    | some line =>
      match ← settle line with
      | some answer => return answer
      | none => askLines prompt secret settle rest

/-- Asks until an answer is settled. -/
def askUntil {α : Type} (prompt : String) (secret : Bool) (settle : String → Flow (Option α)) :
    Flow α := do
  askLines prompt secret settle (← get).input

/-- A prompt: the message without its tags, the answers that there are, and the default that an
empty line stands for. -/
def prompt (message : String) (answers : String) (default : Option String) :
    Except Failure String := do
  let message ← (Markup.plain message).mapError Failure.markup
  let default := match default with
    | some shown => s!" ({Text.undisrupted shown})"
    | none => ""
  return message ++ answers ++ default ++ ": "

/-- Tells why a line was no answer. -/
def refuse {α : Type} (notice : String) : Flow (Option α) := do
  Flow.emit (.refused notice)
  return none

/-- A yes or no; an empty line is the default. -/
def confirm (message : String) (default : Bool := false) : Flow Bool := do
  let question ← prompt s!"\n{message}" " [y/n]" (some (if default then "y" else "n"))
  askUntil question false fun line => do
    let answer := Text.lower (Text.strip line)
    if line.isEmpty then return some default
    else if answer == "y" then return some true
    else if answer == "n" then return some false
    else refuse "[prompt.invalid]Please enter Y or N"

/-- The line above a numbered list. -/
def listHead (message : String) : String := s!"\n[bold blue]{message}[/bold blue]"

/-- An entry of a numbered list. The label is shown unless it says nothing more than the value. -/
def listEntry (number : Nat) (value label : String) : String :=
  let suffix := if label.isEmpty || label == value then "" else s!" [dim]- {label}[/dim]"
  s!"  [cyan]{number}.[/cyan] {value}{suffix}"

/-- The number of a value in the list, or one. -/
def numberOf (choices : List (String × String)) (value : String) : Nat :=
  ((choices.findIdx? fun choice => choice.1 == value).getD 0) + 1

/-- A value from a numbered list; an empty line is the default, or the first value. -/
def choose (message : String) (choices : List (String × String))
    (default : Option String := none) : Flow String := do
  tell (listHead message)
  choices.zipIdx.forM fun ((value, label), index) => tell (listEntry (index + 1) value label)
  let defaultNumber := (default.map (numberOf choices)).getD 1
  let question ← prompt "Choose" "" (some (toString defaultNumber))
  let number ← askUntil question false fun line => do
    if line.isEmpty then return some defaultNumber
    else match (List.range choices.length).find? fun i => toString (i + 1) == Text.strip line with
      | some index => return some (index + 1)
      | none => refuse "[prompt.invalid.choice]Please select one of the available options"
  match choices[number - 1]? with
  | some choice => return choice.1
  | none => throw .nothingToChoose

/-- What is made of an answer, or what is wrong with it. -/
abbrev Judge (α β : Type) := α → Flow (Except String β)

/-- Lets an answer stand as it is, unless something is wrong with it. -/
def refusing {α : Type} (fault? : α → Option String) : Judge α α := fun answer =>
  return match fault? answer with
    | some fault => .error fault
    | none => .ok answer

/-- Lets every answer stand as it is. -/
def anything {α : Type} : Judge α α := fun answer => return .ok answer

/-- Passes on what is made of an answer, or tells what is wrong with it. -/
def settleBy {α β : Type} (judge : Judge α β) (answer : α) : Flow (Option β) := do
  match ← judge answer with
  | .error fault =>
    error fault
    return none
  | .ok made => return some made

/-- The text that a default stands for. -/
def defaultText (default : Json) : Flow String :=
  if !default.isTruthy then return ""
  else match default with
    | .str text => return Text.strip text.toString
    | value => throw (.noOperation value "strip")

/-- What is made of a text without white space around it. An empty line is the default, which is
shown if it is a text. -/
def askText {β : Type} (message : String) (judge : Judge String β)
    (default : Option Json := none) : Flow β := do
  let shown := match default with
    | some (.str text) => some text.toString
    | _ => none
  let question ← prompt message "" shown
  askUntil question false fun line => do
    let answer ← match line.isEmpty, default with
      | true, some value => defaultText value
      | _, _ => pure (Text.strip line)
    settleBy judge answer

/-- What is made of a whole number. An empty line is the default. -/
def askWhole {β : Type} (message : String) (judge : Judge Int β) (default : Option Int := none) :
    Flow β := do
  let question ← prompt message "" (default.map toString)
  askUntil question false fun line =>
    match line.isEmpty, default with
    | true, some value => settleBy judge value
    | _, _ =>
      match Number.readWhole (Text.strip line) with
      | .ok value => settleBy judge value
      | .error _ => refuse "[prompt.invalid]Please enter a valid integer number"

/-- A text that is not shown while it is typed. -/
def askSecret (message : String) : Flow String := do
  let question ← prompt message "" none
  askUntil question true fun line => return some (Text.strip line)

end CommitStyle.Dialog
