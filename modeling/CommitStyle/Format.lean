import CommitStyle.Json.Basic

/-! The formats of commit titles and branch names. A built-in title format is a
shape, which says what separates type, scope and message, and a style, which
says how the message begins. -/

namespace CommitStyle

/-- How type, scope and message of a built-in title are set apart. -/
inductive Shape
  | paren
  | colon
  | scope
  | scopeColon
deriving DecidableEq, Repr

/-- Whether a message starts like a sentence or stays lower case. -/
inductive Style
  | sentence
  | lower
deriving DecidableEq, Repr

inductive CommitFormat
  | builtin (shape : Shape) (style : Style)
  /-- The format of a pattern of the project's own. -/
  | custom
deriving DecidableEq, Repr

inductive BranchFormat
  | typeDescription
  | typeScopeDescription
  | custom
deriving DecidableEq, Repr

namespace Shape

/-- An example of the shape, as messages show it. -/
def sketch : Shape → String
  | .paren => "(type) msg"
  | .colon => "type: msg"
  | .scope => "type(scope) msg"
  | .scopeColon => "type(scope): msg"

def name : Shape → String
  | .paren => "PAREN"
  | .colon => "COLON"
  | .scope => "SCOPE"
  | .scopeColon => "SCOPE_COLON"

def hasScope : Shape → Bool
  | .scope | .scopeColon => true
  | .paren | .colon => false

end Shape

namespace CommitFormat

/-- The formats in the order of their numbers. -/
def all : List CommitFormat :=
  [.builtin .paren .sentence, .builtin .paren .lower,
    .builtin .colon .sentence, .builtin .colon .lower,
    .builtin .scope .sentence, .builtin .scope .lower,
    .builtin .scopeColon .sentence, .builtin .scopeColon .lower, .custom]

/-- The number, or name, that a configuration gives for the format. -/
def code : CommitFormat → Json
  | .builtin .paren .sentence => .int 1
  | .builtin .paren .lower => .int 2
  | .builtin .colon .sentence => .int 3
  | .builtin .colon .lower => .int 4
  | .builtin .scope .sentence => .int 5
  | .builtin .scope .lower => .int 6
  | .builtin .scopeColon .sentence => .int 7
  | .builtin .scopeColon .lower => .int 8
  | .custom => .str "custom"

def ofCode? (value : Json) : Option CommitFormat := all.find? fun format => format.code.same value

def shape? : CommitFormat → Option Shape
  | .builtin shape _ => some shape
  | .custom => none

def isCustom : CommitFormat → Bool
  | .custom => true
  | .builtin _ _ => false

def isLowercase : CommitFormat → Bool
  | .builtin _ .lower => true
  | _ => false

def hasScope (format : CommitFormat) : Bool := format.shape?.any Shape.hasScope

def label : CommitFormat → String
  | .builtin .paren .sentence => "(type) Description"
  | .builtin .paren .lower => "(type) description"
  | .builtin .colon .sentence => "type: Description"
  | .builtin .colon .lower => "type: description"
  | .builtin .scope .sentence => "type(scope) Description"
  | .builtin .scope .lower => "type(scope) description"
  | .builtin .scopeColon .sentence => "type(scope): Description"
  | .builtin .scopeColon .lower => "type(scope): description"
  | .custom => "Custom pattern"

def name : CommitFormat → String
  | .builtin shape .sentence => shape.name ++ "_SENTENCE"
  | .builtin shape .lower => shape.name ++ "_LOWER"
  | .custom => "CUSTOM"

end CommitFormat

namespace BranchFormat

def all : List BranchFormat := [.typeDescription, .typeScopeDescription, .custom]

def code : BranchFormat → Json
  | .typeDescription => .int 1
  | .typeScopeDescription => .int 2
  | .custom => .str "custom"

def ofCode? (value : Json) : Option BranchFormat := all.find? fun format => format.code.same value

def isCustom : BranchFormat → Bool
  | .custom => true
  | _ => false

def hasScope : BranchFormat → Bool
  | .typeScopeDescription => true
  | _ => false

def label : BranchFormat → String
  | .typeDescription => "type/description"
  | .typeScopeDescription => "type/scope/description"
  | .custom => "Custom pattern"

def name : BranchFormat → String
  | .typeDescription => "TYPE_DESCRIPTION"
  | .typeScopeDescription => "TYPE_SCOPE_DESCRIPTION"
  | .custom => "CUSTOM"

end BranchFormat

end CommitStyle
