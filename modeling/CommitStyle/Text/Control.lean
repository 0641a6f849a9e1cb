/-! Control characters that would ring, or move the cursor, in a line that is shown. -/

namespace CommitStyle.Text

def isDisruptive (c : Char) : Bool :=
  c == '\x07' || c == '\x08' || c == '\x0b' || c == '\x0c' || c == '\r'

/-- The text without such characters. -/
def undisrupted (text : String) : String := String.ofList (text.toList.filter (!isDisruptive ·))

end CommitStyle.Text
