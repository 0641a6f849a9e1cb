import CommitStyle.Flow.Selection
import CommitStyle.Suggestion.Suggest
import CommitStyle.Title.Examine

/-! Choosing the title of a commit: one of the suggested titles, as it is or edited,
or one of the user's own. Every title that is chosen has been accepted. -/

namespace CommitStyle.Flow.Title

/-- Accepts a title or tells why not. -/
def judge (config : Config) (fields : Entries String) : Dialog.Judge String String :=
  fun title => return (← config.examine title fields).mapError Rejection.message

/-- The title that the parts make. -/
def composed (config : Config) (type : String) (scope : Option String) (fields : Entries String)
    (description : String) : Except Failure String := do
  config.format.compose (← config.commitPattern) { type, description, scope, fields }

/-- A title of the user's own, made of parts that are asked for one by one. -/
def writeOwn (config : Config) (fields : Entries String) : Flow String := do
  let type ← Selection.chooseType config "Type of changes"
  let scope ← Selection.chooseScope? config (← config.requiresScope)
  Dialog.askText "Commit title?" fun description => do
    if description.isEmpty then return .error AnswerFault.emptyTitle.message
    else judge config fields (← composed config type scope fields description)

/-- The entry of the list of suggestions that stands for none of them. -/
def ownTitle : String := "custom"

/-- A suggested title, as it is or edited, or one of the user's own. -/
def choose (config : Config) (fields : Entries String) : Flow String := do
  let suggestions ← if config.ai.enabled then Suggestion.suggest config fields else pure []
  if suggestions.isEmpty then writeOwn config fields
  else
    let chosen ← Dialog.choose "Commit title"
      (suggestions.map (·, "") ++ [(ownTitle, "Write the title manually")])
    if chosen == ownTitle then writeOwn config fields
    else Dialog.askText "Commit title?" (judge config fields) (some (.str (.whole chosen)))

end CommitStyle.Flow.Title
