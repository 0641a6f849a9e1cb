import CommitStyle.Session.Basic
import CommitStyle.Text.Blank

/-! The git commands that flows run. Where a command has to succeed, its failure
tells what was to be done and what git said to it. -/

namespace CommitStyle

/-- Why a command failed: what it wrote, or else how it ended. -/
def failureDetail (words : List String) (code : Int) (errors : String) : String :=
  if errors.isEmpty then Outcome.description words code else errors

/-- What is staged for the next commit. -/
structure StagedDiff where
  stats : String
  diff : String
deriving DecidableEq, Repr

namespace Git

/-- Runs a command that has to succeed, and gives what it wrote. -/
def run (words : List String) (action : String) : Flow String := do
  Flow.debug ("Running " ++ " ".intercalate words)
  let (code, output, errors) ← Flow.command words
  if code == 0 then return output
  else throw (.git action (failureDetail words code errors))

def currentBranch : Flow String :=
  return Text.strip (← run ["git", "rev-parse", "--abbrev-ref", "HEAD"] "get current branch")

def stageAll : Flow Unit := do
  let _ ← run ["git", "add", "-A"] "stage changes"

/-- Whether something is staged: the command fails when there is a difference. -/
def hasStagedChanges : Flow Bool := do
  let (code, _, _) ← Flow.command ["git", "diff", "--cached", "--quiet"]
  return code != 0

/-- An empty description is left out. -/
def commit (title : String) (description : Option String) : Flow String :=
  let body := match description with
    | some text => if text.isEmpty then [] else ["-m", text]
    | none => []
  run (["git", "commit", "-m", title] ++ body) "create commit"

def push (branch : String) (remote : String := "origin") : Flow String :=
  run ["git", "push", "-u", remote, branch] "push changes"

def status : Flow String := run ["git", "status"] "get status"

def branchExists (name : String) : Flow Bool := do
  let (code, _, _) ←
    Flow.command ["git", "show-ref", "--verify", "--quiet", "refs/heads/" ++ name]
  return code == 0

def createBranch (name : String) (checkout : Bool := true) : Flow String :=
  run (if checkout then ["git", "checkout", "-b", name] else ["git", "branch", name])
    "create branch"

/-- How many lines of a diff are looked at. -/
def maxDiffLines : Nat := 500

/-- Files that say little about a change: lock files and minified ones. -/
def diffExcludes : List String :=
  [":(exclude)package-lock.json", ":(exclude)*.lock", ":(exclude)*.min.*"]

/-- The first lines of a diff. -/
def shorten (diff : String) : String :=
  String.ofList
    (Text.joinPieces '\n' ((Text.pieces '\n' diff.toList).take maxDiffLines))

/-- The staged changes, cut to a size; `none` if nothing is staged. -/
def stagedDiff : Flow (Option StagedDiff) := do
  let stats ← run ["git", "diff", "--cached", "--stat"] "get diff stats"
  let diff ←
    run (["git", "diff", "--cached", "--no-color", "--unified=1", "--", "."] ++ diffExcludes)
      "get diff"
  if Text.isBlankText stats && Text.isBlankText diff then return none
  else return some ⟨stats, shorten diff⟩

end Git

end CommitStyle
