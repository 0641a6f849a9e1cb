import CommitStyle.Files.Basic
import CommitStyle.Session.Event
import CommitStyle.Session.Outcome

/-! A session is what a flow works on: the lines that will be typed, the outcomes
of commands, the replies of the suggestion service, the environment and the
files. A flow is a computation on a session that may fail. Everything that
happened stays in the session, also after a failure. -/

namespace CommitStyle

/-- What comes back for a request. -/
inductive Reply
  | failed (reason : String)
  | answered (status : Int) (body : String)
deriving DecidableEq, Repr

structure Session where
  /-- The lines still to be typed; `none` is the interrupt key. -/
  input : List (Option String) := []
  rules : List CommandRule := []
  /-- The replies still to come, one for each request. -/
  replies : List Reply := []
  environment : Entries String := []
  files : Files := []
  /-- Whether debug lines are logged. -/
  verbose : Bool := false
  /-- What reached the outside, in order. -/
  events : List Event := []
deriving Repr

abbrev Flow := ExceptT Failure (StateM Session)

namespace Flow

/-- Runs a flow. -/
def runOn {α : Type} (flow : Flow α) (session : Session) : Except Failure α × Session :=
  flow.run.run session

def emit (event : Event) : Flow Unit :=
  modify fun session => { session with events := session.events ++ [event] }

/-- Logs a line. Debug lines are only logged in a verbose session. -/
def log (level : LogLevel) (text : String) : Flow Unit := do
  if level != .debug || (← get).verbose then emit (.log level text)

def debug (text : String) : Flow Unit := log .debug text

/-- Logs a line on a value. A value that cannot be shown leaves no line. -/
def logOn (level : LogLevel) (value : Json) (line : String → String) : Flow Unit :=
  match value.display with
  | .ok shown => log level (line shown)
  | .error _ => pure ()

/-! ## Files -/

def readText (path : String) : Flow String := do
  (← get).files.read path

def writeText (path content : String) : Flow Unit := do
  let files ← (← get).files.write path content
  modify fun session => { session with files }

def touch (path : String) : Flow Unit := do
  let files ← (← get).files.touch path
  modify fun session => { session with files }

def isThere (path : String) : Flow Bool := return (← get).files.isThere path

/-! ## Commands and requests -/

/-- Runs a command to its end. A command that is not installed fails. -/
def command (words : List String) : Flow (Int × String × String) := do
  emit (.command words)
  match Outcome.ofRules (← get).rules words with
  | .notInstalled => throw (.noSuchCommand (words.headD ""))
  | .exited code output errors => return (code, output, errors)

/-- Sends a request and takes the next reply. -/
def send (request : Request) : Flow Reply := do
  emit (.request request)
  match (← get).replies with
  | [] => return .failed "no scripted reply"
  | reply :: rest =>
    modify fun session => { session with replies := rest }
    return reply

end Flow

end CommitStyle
