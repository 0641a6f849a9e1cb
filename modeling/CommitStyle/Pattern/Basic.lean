import CommitStyle.Casing
import CommitStyle.Entries

/-! Patterns for commit titles and branch names. A pattern is a list of segments:
fixed text, the keywords `type`, `scope` and `description`, and fields with a
label of their own. The values of a title fill the keywords and fields. -/

namespace CommitStyle

inductive Segment
  /-- Text that stands as it is. -/
  | literal (text : String)
  /-- A keyword; its spelling decided how values are cased. -/
  | keyword (name : String) (casing : Casing)
  /-- A place for a value of that label. -/
  | field (label : String)
deriving DecidableEq, Repr

/-- What a pattern or a rendered text is for. -/
inductive PatternKind
  | commit
  | branch
deriving DecidableEq, Repr

structure Pattern where
  source : String
  segments : List Segment
deriving DecidableEq, Repr

/-- The values of one commit or branch. -/
structure Values where
  type : String
  description : String
  scope : Option String := none
  fields : Entries String := []
deriving DecidableEq, Repr

namespace Segment

def isLiteral : Segment → Bool
  | .literal _ => true
  | _ => false

def keywordName? : Segment → Option String
  | .keyword name _ => some name
  | _ => none

def fieldLabel? : Segment → Option String
  | .field label => some label
  | _ => none

end Segment

namespace Pattern

/-- The segments that stand for a value. -/
def captures (p : Pattern) : List Segment := p.segments.filter (!·.isLiteral)

/-- The labels of the fields, each once, in order of first appearance. -/
def fields (p : Pattern) : List String := (p.segments.filterMap Segment.fieldLabel?).eraseDups

def hasKeyword (p : Pattern) (name : String) : Bool :=
  p.segments.any fun segment => segment.keywordName? == some name

def hasScope (p : Pattern) : Bool := p.hasKeyword "scope"

end Pattern

end CommitStyle
