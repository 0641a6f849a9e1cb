import CommitStyle.KeyFile.Store
import CommitStyle.Session.Dialog
import CommitStyle.Suggestion.Service

/-! Suggesting titles for what is staged. The changes are sent only when the
vocabulary is the project's own, a key is stored, something is staged, and the
prompt is small or the user agrees. Whatever goes wrong with the service, the
outcome is a list without titles. -/

namespace CommitStyle.Suggestion

/-- The staged changes; `none` if there are none to analyse. -/
def changes? : Flow (Option StagedDiff) := do
  let noChanges : Flow (Option StagedDiff) := do
    Dialog.warning "No staged changes to analyze for AI suggestions"
    return none
  tryCatch (do
    match ← Git.stagedDiff with
    | some staged => return some staged
    | none => noChanges) fun
    | .git action detail => do
      let message := (Failure.git action detail).message
      Flow.debug s!"Error getting git diff: {message}"
      Dialog.warning s!"Could not read staged changes for AI suggestions: {message}"
      return none
    | failure => throw failure

/-- A large prompt is sent only with the user's consent. -/
def maySend (config : Config) (prompt : String) : Flow Bool :=
  let tokens := tokenCount prompt
  if config.ai.largeDiffTokenThreshold < tokens then
    Dialog.confirm s!"Large diff detected (~{tokens} tokens). Generate AI suggestions?"
  else return true

/-- Suggested titles; none where the service fails. -/
def request (config : Config) (key prompt : String) (fields : Entries String) :
    Flow (List String) := do
  Flow.emit (.status "Generating AI suggestions...")
  tryCatch (do
    let titles ← generate config key prompt fields
    if titles.isEmpty then
      Dialog.warning "AI suggestions did not match the configured format"
    return titles) fun
    | .service fault => do
      Dialog.warning s!"AI suggestion failed: {fault.message}"
      return []
    | failure => throw failure

/-- Titles that the service suggests for what is staged. -/
def suggest (config : Config) (fields : Entries String) : Flow (List String) := do
  if config.usesPlaceholderScope then
    Dialog.warning (s!"Default scope \"{placeholderScope}\" in use - " ++
      "update scopes in config to enable AI suggestions")
    return []
  let (path, name) := (config.ai.envPath, config.ai.keyName)
  let key := (← KeyFile.get? path name).getD ""
  if key.isEmpty then
    Dialog.warning s!"AI API key {← name.displayed} not found in {← path.displayed}"
    return []
  match ← changes? with
  | none => return []
  | some staged =>
    let prompt ← instructions config staged fields
    if ← maySend config prompt then request config key prompt fields
    else return []

end CommitStyle.Suggestion
