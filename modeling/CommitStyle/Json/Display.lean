import CommitStyle.Json.Basic
import CommitStyle.Number.Whole

/-! How messages show a value: texts quoted, lists and objects in brackets, `None`
and `True` for null and truth. A text that stands alone may be shown bare. A value
with a whole number of too many digits cannot be shown. -/

namespace CommitStyle

/-- A code point inside quotes. -/
def CodePoint.escapeIn (quote : Char) : CodePoint → List Char
  | .char c => Text.escapeIn quote c
  | .half unit => '\\' :: 'u' :: Text.hexDigits unit 4

/-- The text in quotes. -/
def JsonText.quoted : JsonText → String
  | .whole text => Text.quoted text
  | .broken points =>
    let quote := Text.quoteFor (points.map CodePoint.toChar)
    String.ofList (quote :: points.flatMap (CodePoint.escapeIn quote) ++ [quote])

namespace Json

mutual

def inspect : Json → Except Number.WholeFault String
  | .null => .ok "None"
  | .bool b => .ok (if b then "True" else "False")
  | .int n => Number.writeWhole n
  | .float x => .ok x.text
  | .str s => .ok s.quoted
  | .arr items => do return "[" ++ ", ".intercalate (← inspectItems items) ++ "]"
  | .obj members => do return "\x7b" ++ ", ".intercalate (← inspectMembers members) ++ "\x7d"

def inspectItems : List Json → Except Number.WholeFault (List String)
  | [] => .ok []
  | item :: rest => do return (← inspect item) :: (← inspectItems rest)

def inspectMembers : List (JsonText × Json) → Except Number.WholeFault (List String)
  | [] => .ok []
  | (key, value) :: rest => do
    return (key.quoted ++ ": " ++ (← inspect value)) :: (← inspectMembers rest)

end

/-- A text as it is; for any other value the text that shows it. -/
def asText : Json → Except Number.WholeFault JsonText
  | .str text => .ok text
  | value => do return .whole (← value.inspect)

/-- A value as messages show it bare. -/
def display (value : Json) : Except Number.WholeFault String := do
  return (← value.asText).toString

end Json

end CommitStyle
