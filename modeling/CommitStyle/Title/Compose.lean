import CommitStyle.Format
import CommitStyle.Pattern.Render

/-! Composing commit titles and branch names from their parts, in a built-in
format or by a pattern. -/

namespace CommitStyle

/-- A built-in title. An absent scope leaves its parentheses empty. -/
def Shape.compose (shape : Shape) (type : String) (scope : Option String) (message : String) :
    String :=
  match shape with
  | .paren => "(" ++ type ++ ") " ++ message
  | .colon => type ++ ": " ++ message
  | .scope => type ++ "(" ++ scope.getD "" ++ ") " ++ message
  | .scopeColon => type ++ "(" ++ scope.getD "" ++ "): " ++ message

/-- The message as the style writes it. -/
def Style.apply : Style → String → String
  | .sentence, message => Casing.capitalize.apply message
  | .lower, message => Text.lower message

/-- The title of a commit; only a custom format looks at the pattern. -/
def CommitFormat.compose (format : CommitFormat) (pattern : Option Pattern) (values : Values) :
    Except Failure String :=
  match format, pattern with
  | .builtin shape style, _ =>
    .ok (shape.compose values.type values.scope (style.apply values.description))
  | .custom, some p => p.render .commit values
  | .custom, none => .error .patternMissing

/-- The name of a branch; only a custom format looks at the pattern. -/
def BranchFormat.compose (format : BranchFormat) (pattern : Option Pattern) (values : Values) :
    Except Failure String :=
  let slug := Slug.sanitize values.description false
  match format, pattern with
  | .typeDescription, _ => .ok (values.type ++ "/" ++ slug)
  | .typeScopeDescription, _ => .ok (values.type ++ "/" ++ values.scope.getD "" ++ "/" ++ slug)
  | .custom, some p => p.render .branch values
  | .custom, none => .error .patternMissing

end CommitStyle
