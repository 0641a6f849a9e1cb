import CommitStyle.Flow.Selection
import CommitStyle.Git
import CommitStyle.Title.Compose

/-! The flow of a new branch. The name is composed from answers, and a branch is
made only if there is none of that name. In a test the flow ends with the name. -/

namespace CommitStyle.Flow.Branch

/-- What stands in the way of a branch from the start. -/
def obstacle? (config : Config) : Except Failure (Option String) := do
  let patternFault ←
    if config.branchFormat.isCustom then patternFaultOf config.customBranchFormat .branch
    else .ok none
  match patternFault with
  | some fault => return some s!"Invalid custom branch format - {fault.message}"
  | none => return Selection.vocabularyFault? config (← config.branchRequiresScope)

/-- The name of the branch, and whether to switch to it. -/
structure Plan where
  name : String
  checkout : Bool
deriving DecidableEq, Repr

/-- Asks for all that a branch needs. -/
def plan (config : Config) (testing : Bool) : Flow Plan := do
  let pattern ← config.branchPattern
  let fields ← Selection.askFields pattern true
  let type ← Selection.chooseType config "Type of branch"
  let scope ← Selection.chooseScope? config (← config.branchRequiresScope)
  let fault? (text : String) :=
    (Answer.branchDescriptionFault? text config.maxLength).map (·.message)
  let description ← Dialog.askText "Branch description?" (Dialog.refusing fault?)
  let checkout ←
    if testing then pure true
    else Dialog.confirm "Switch to the new branch after creation?" true
  let name ← config.branchFormat.compose pattern { type, description, scope, fields }
  return { name, checkout }

/-- Makes the branch as planned, unless there is one of that name. -/
def execute (plan : Plan) : Flow Unit := do
  if ← Git.branchExists plan.name then
    Dialog.error s!"Branch \"{plan.name}\" already exists"
  else
    let output ← Git.createBranch plan.name plan.checkout
    let suffix := if plan.checkout then " and checked out" else ""
    Dialog.success s!"Branch \"{plan.name}\" successfully created{suffix}"
    Dialog.output output
    Dialog.output (← Git.status)

def run (config : Config) (testing : Bool) : Flow Unit := do
  Dialog.info "New branch"
  if testing then Dialog.warning "Test mode enabled - branch will not be created"
  match ← obstacle? config with
  | some fault => Dialog.error fault
  | none =>
    let plan ← plan config testing
    if testing then Dialog.title plan.name "Branch name" else execute plan

end CommitStyle.Flow.Branch
