import CommitStyle.Config.Basic
import CommitStyle.Answer
import CommitStyle.Session.Dialog

/-! What the flows of a commit and of a branch ask for alike: a type, a scope and
the fields of a pattern. -/

namespace CommitStyle.Flow.Selection

/-- Why there is nothing to select from. -/
def vocabularyFault? (config : Config) (needsScope : Bool) : Option String :=
  if config.types.isEmpty then some "No types defined - please update config"
  else if needsScope && config.scopes.isEmpty then
    some "No scopes defined - update config or format option"
  else none

/-- The entries of a vocabulary as a list to choose from. -/
def listed (choices : List Choice) : List (String × String) :=
  choices.map fun choice => (choice.value, choice.description)

def chooseType (config : Config) (message : String) : Flow String :=
  Dialog.choose message (listed config.types)

/-- A scope, where one is needed. -/
def chooseScope? (config : Config) (needsScope : Bool) : Flow (Option String) :=
  if needsScope then return some (← Dialog.choose "Scope" (listed config.scopes))
  else return none

/-- Values for the fields of a pattern, each asked for once. -/
def askFields (pattern : Option Pattern) (inBranch : Bool) : Flow (Entries String) :=
  let labels := (pattern.map Pattern.fields).getD []
  labels.mapM fun label => do
    let fault? (value : String) := (Answer.fieldFault? value label inBranch).map (·.message)
    return (label, ← Dialog.askText s!"{label}?" (Dialog.refusing fault?))

end CommitStyle.Flow.Selection
