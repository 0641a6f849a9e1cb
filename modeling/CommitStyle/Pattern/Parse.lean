import CommitStyle.Pattern.Expression
import CommitStyle.Text.Blank

/-! Reading a title back by a pattern. The trimmed title has to match the expression
of the pattern; the texts of its groups, trimmed as well, are the values. A
keyword or field that stands more than once has its first text. -/

namespace CommitStyle

namespace Pattern

/-- The captures with the trimmed texts read for them. -/
def capturedTexts (p : Pattern) (texts : List (List Char)) : List (Segment × String) :=
  p.captures.zip (texts.map fun text => String.ofList (Text.trim text))

/-- The text of the first capture with that keyword. -/
def keywordText? (captured : List (Segment × String)) (name : String) : Option String :=
  (captured.find? fun capture => capture.1.keywordName? == some name).map Prod.snd

/-- Notes the text of a field, unless its label has one already. -/
def addFieldText (fields : Entries String) (capture : Segment × String) : Entries String :=
  match capture.1.fieldLabel? with
  | some label => fields.insertNew label capture.2
  | none => fields

/-- The first text of each label. -/
def fieldTexts (captured : List (Segment × String)) : Entries String :=
  captured.foldl addFieldText []

def valuesOf (captured : List (Segment × String)) : Values where
  type := (keywordText? captured "type").getD ""
  description := (keywordText? captured "description").getD ""
  scope := keywordText? captured "scope"
  fields := fieldTexts captured

/-- The values of a title that has the shape of the pattern. -/
def parse? (p : Pattern) (title : String) : Option Values :=
  (matchParts (parts p.segments) (Text.trim title.toList)).map fun texts =>
    valuesOf (p.capturedTexts texts)

end Pattern

end CommitStyle
