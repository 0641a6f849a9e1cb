import CommitStyle.Pattern.Compile
import CommitStyle.Text.Blank
import CommitStyle.Text.Quoted

/-! Checking a pattern before it is used. A pattern needs a description, and for
commits a type; its braces have to pair, its labels to say something; and in a
branch pattern no fixed text may hold what a branch name must not. -/

namespace CommitStyle

/-- What is wrong with a pattern. -/
inductive PatternFault
  | empty
  | noType
  | noDescription
  | unopenedBrace
  | unclosedBrace
  | emptyLabel
  | blankInSeparator (text : String)
  /-- A character or sequence that branch names may not hold. -/
  | illegalInSeparator (text found : String)
deriving DecidableEq, Repr

def PatternFault.message : PatternFault → String
  | .empty => "Pattern cannot be empty"
  | .noType => "Pattern must contain the 'type' keyword"
  | .noDescription => "Pattern must contain the 'description' keyword"
  | .unopenedBrace => "Unbalanced braces: found '\x7d' without a matching '\x7b'"
  | .unclosedBrace => "Unbalanced braces: found '\x7b' without a matching '\x7d'"
  | .emptyLabel => "Custom field names cannot be empty: use \x7bField Name\x7d"
  | .blankInSeparator text => s!"Branch separator {Text.quoted text} cannot contain spaces"
  | .illegalInSeparator text found =>
    s!"Branch separator {Text.quoted text} cannot contain {Text.quoted found}"

namespace Pattern

/-- Checks that braces pair; `depth` are open. -/
def braceFault? : (depth : Nat) → List Char → Option PatternFault
  | depth, [] => if depth == 0 then none else some .unclosedBrace
  | depth, '{' :: rest => braceFault? (depth + 1) rest
  | 0, '}' :: _ => some .unopenedBrace
  | depth + 1, '}' :: rest => braceFault? depth rest
  | depth, _ :: rest => braceFault? depth rest

/-- What a branch name may not hold, in the order in which it is looked for. -/
def illegalInBranch : List String := ["~", "^", ":", "?", "*", "[", "\\", "..", "//"]

def contains (text part : List Char) : Bool :=
  part.isPrefixOf text || match text with
    | [] => false
    | _ :: rest => contains rest part

def separatorFault? (text : String) : Option PatternFault :=
  if text.toList.any Text.isBlank then some (.blankInSeparator text)
  else (illegalInBranch.find? fun found => contains text.toList found.toList).map
    (.illegalInSeparator text)

def labelFault? : Segment → Option PatternFault
  | .field label => if Text.isBlankText label then some .emptyLabel else none
  | _ => none

def literalFault? : Segment → Option PatternFault
  | .literal text => separatorFault? text
  | _ => none

/-- The first fault that is found, in the order of the checks. -/
def fault? (source : String) (kind : PatternKind) : Option PatternFault :=
  if Text.isBlankText source then some .empty
  else
    let p := compile source
    if kind == .commit && !p.hasKeyword "type" then some .noType
    else if !p.hasKeyword "description" then some .noDescription
    else
      (braceFault? 0 source.toList).or <|
      (p.segments.findSome? labelFault?).or <|
      match kind with
      | .commit => none
      | .branch => p.segments.findSome? literalFault?

end Pattern

end CommitStyle
