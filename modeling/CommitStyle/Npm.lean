import CommitStyle.Git

/-! Changing the version of a package. -/

namespace CommitStyle.Npm

/-- The command that sets a version, or raises it by a kind of release. -/
def versionWords (version : String) (preId : Option String) (allowSame : Bool) : List String :=
  let preIdOption := match preId with
    | some id => if id.isEmpty then [] else ["--preid=" ++ id]
    | none => []
  ["npm", "version", version] ++ preIdOption ++
    (if allowSame then ["--allow-same-version"] else [])

/-- Changes the version and gives the new one. -/
def changeVersion (version : String) (preId : Option String := none) (allowSame : Bool := true) :
    Flow String := do
  let words := versionWords version preId allowSame
  Flow.debug ("Running " ++ " ".intercalate words)
  let (code, output, errors) ← Flow.command words
  if code == 0 then return Text.strip output
  else throw (.npm (failureDetail words code errors))

end CommitStyle.Npm
