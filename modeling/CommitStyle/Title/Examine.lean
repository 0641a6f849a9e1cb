import CommitStyle.Session.Basic
import CommitStyle.Title.Accept

/-! Accepting titles within a flow, where the log tells more than the verdict. -/

namespace CommitStyle

/-- Accepts or rejects a title, and notes when it has the shape of another format. -/
def Config.examine (config : Config) (title : String) (fields : Entries String) :
    Flow Verdict := do
  if let some (found, expected) := config.foreignShape? title then
    Flow.debug (s!"Title matched FormatGroup.{found.name} but format " ++
      s!"CommitFormat.{config.format.name} expects FormatGroup.{expected.name}")
  config.accept title fields

end CommitStyle
