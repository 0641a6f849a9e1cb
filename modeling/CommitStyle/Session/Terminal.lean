import CommitStyle.Session.Event

/-! What a terminal without styles shows of an event. Tags for styles are left out;
commands and requests are not shown. Whether the tags of a text fit is looked at before
it is printed. -/

namespace CommitStyle

/-- The text without its tags; a text whose tags do not fit shows nothing. -/
def plainText (markup : String) : String := (Markup.plain markup).toOption.getD ""

/-- The text that a terminal shows; a prompt leaves the line open. -/
def Event.shown : Event → String
  | .print markup | .refused markup => plainText markup ++ "\n"
  | .output text | .status text => text ++ "\n"
  | .panel text title => title ++ "\n  " ++ text ++ "\n"
  | .details failure => failure.message ++ "\n"
  | .ask prompt _ => prompt
  | .command _ | .request _ => ""
  | .log level text => level.name ++ ": " ++ text ++ "\n"

end CommitStyle
