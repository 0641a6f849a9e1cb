import CommitStyle.CommandLine.Options
import CommitStyle.Flow.Branch
import CommitStyle.Flow.Commit
import CommitStyle.Flow.Setup

/-! A run of the program. Without a configuration it starts with the setup. Every
failure ends in a message and an exit code. -/

namespace CommitStyle.CommandLine

/-- How a run ends: its exit code and the text that was written without style. -/
structure Exit where
  code : Nat
  text : String := ""
deriving DecidableEq, Repr

/-- Runs the flow that the options ask for. -/
def start (options : Options) : Flow Unit := do
  let path := configPath (← get).environment
  modify fun session => { session with verbose := options.verbose }
  if options.configure then
    let _ ← Flow.Setup.run path false
  else if !(← Flow.isThere path) then
    Dialog.warning "No configuration found"
    let outcome ← Flow.Setup.run path true
    if outcome.commitAfter then Flow.Commit.run outcome.config options.testing
  else
    let config ← Config.load path
    if options.branch then Flow.Branch.run config options.testing
    else Flow.Commit.run config options.testing

/-- Tells the user of a failure that ends the run. -/
def report (options : Options) (failure : Failure) : Flow Unit :=
  match failure with
  | .config fault => Dialog.error s!"Configuration error: {fault.message}"
  | .git _ _ | .npm _ => do
    Dialog.error failure.message
    if options.verbose then
      Dialog.aside "Command error details:"
      Dialog.details (some failure)
  | .interrupted | .inputExhausted => Dialog.error "\nOperation cancelled by user."
  | failure => Dialog.error s!"An error occurred: {failure.message}"

def perform (options : Options) : Flow Exit :=
  tryCatch (do
    start options
    return { code := 0 }) fun failure => do
    report options failure
    return { code := 1 }

/-- A run of the program with its arguments. -/
def run (arguments : List String) : Flow Exit :=
  match parse arguments with
  | .error fault => return { code := 2, text := fault.text }
  | .ok .help => return { code := 0, text := helpText }
  | .ok .version => return { code := 0, text := versionText }
  | .ok (.run options) => perform options

end CommitStyle.CommandLine
