import CommitStyle.Failure
import CommitStyle.Pattern.Basic
import CommitStyle.Slug

/-! Rendering a pattern: the segments, filled with values, one after the other.
In a branch name the description and the fields become slugs before they are
cased; type and scope stand as they are. -/

namespace CommitStyle

/-- The value of a keyword before casing. -/
def keywordValue (kind : PatternKind) (values : Values) (name : String) :
    Except Failure String :=
  if name == "type" then .ok values.type
  else if name == "scope" then .ok (values.scope.getD "")
  else if name == "description" then
    .ok (match kind with
      | .commit => values.description
      | .branch => Slug.sanitize values.description false)
  else .error (.unknownKeyword name)

/-- A field without a value is empty. -/
def fieldValue (kind : PatternKind) (values : Values) (label : String) : String :=
  let value := (values.fields.get? label).getD ""
  match kind with
  | .commit => value
  | .branch => Slug.sanitize value true

def Segment.render (kind : PatternKind) (values : Values) : Segment → Except Failure String
  | .literal text => .ok text
  | .keyword name casing => (keywordValue kind values name).map casing.apply
  | .field label => .ok (fieldValue kind values label)

/-- Renders segments of which some may be foreign values; the first that cannot be rendered
decides the failure. -/
def renderEntries (kind : PatternKind) (values : Values) (entries : List (Except Json Segment)) :
    Except Failure String := do
  let texts ← entries.mapM fun
    | .ok segment => segment.render kind values
    | .error value => do throw (.notASegment (← value.inspected))
  return String.join texts

def Pattern.render (p : Pattern) (kind : PatternKind) (values : Values) :
    Except Failure String := do
  return String.join (← p.segments.mapM (·.render kind values))

end CommitStyle
