import CommitStyle.Text.Quoted

/-! How commands end. A command exits with a number or is stopped by a signal,
which counts as the number below zero; a command that is not installed does not
start at all. -/

namespace CommitStyle

inductive Outcome
  | notInstalled
  | exited (code : Int) (output : String) (errors : String)
deriving DecidableEq, Repr

/-- An outcome for all commands that begin with these words. -/
structure CommandRule where
  beginning : String
  outcome : Outcome
deriving DecidableEq, Repr

namespace Outcome

/-- What a command does of which nothing else is known. -/
def silent : Outcome := .exited 0 "" ""

/-- The outcome that the first fitting rule gives. -/
def ofRules (rules : List CommandRule) (words : List String) : Outcome :=
  ((rules.find? fun rule => rule.beginning.isPrefixOf (" ".intercalate words)).map
    (·.outcome)).getD silent

/-- The signals from the first on. -/
def signalNames : List String :=
  ["SIGHUP", "SIGINT", "SIGQUIT", "SIGILL", "SIGTRAP", "SIGABRT", "SIGBUS", "SIGFPE", "SIGKILL",
    "SIGUSR1", "SIGSEGV", "SIGUSR2", "SIGPIPE", "SIGALRM", "SIGTERM", "SIGSTKFLT", "SIGCHLD",
    "SIGCONT", "SIGSTOP", "SIGTSTP", "SIGTTIN", "SIGTTOU", "SIGURG", "SIGXCPU", "SIGXFSZ",
    "SIGVTALRM", "SIGPROF", "SIGWINCH", "SIGIO", "SIGPWR", "SIGSYS"]

/-- Signals have numbers from one on; of the real-time signals only the first and the last
have a name. -/
def signalName? (number : Nat) : Option String :=
  if number == 0 then none
  else if number == 34 then some "SIGRTMIN"
  else if number == 64 then some "SIGRTMAX"
  else signalNames[number - 1]?

/-- The words of a command as messages show them. -/
def shownWords (words : List String) : String :=
  "[" ++ ", ".intercalate (words.map Text.quoted) ++ "]"

/-- How a command ended that did not end well. -/
def description (words : List String) (code : Int) : String :=
  let command := "Command \x27" ++ shownWords words ++ "\x27"
  if 0 ≤ code then s!"{command} returned non-zero exit status {code}."
  else match signalName? code.natAbs with
    | some name => s!"{command} died with <Signals.{name}: {code.natAbs}>."
    | none => s!"{command} died with unknown signal {code.natAbs}."

end Outcome

end CommitStyle
