import CommitStyle.Pattern.Basic

/-! The regular expression that a pattern stands for when a title is read back: the
literals with their special characters escaped, and a group for each keyword and
field, lazy but for the last one. It is anchored at both ends, and it matches by
trying what each group may take, in order, until the parts after it match too. -/

namespace CommitStyle.Pattern

/-- A part of the expression. A group takes one character at least and no line feed. -/
inductive Part
  | text (chars : List Char)
  | group (greedy : Bool)
deriving DecidableEq, Repr

/-- A capture is greedy when no other one follows it. -/
def parts : List Segment → List Part
  | [] => []
  | .literal text :: rest => .text text.toList :: parts rest
  | _ :: rest => .group (rest.all Segment.isLiteral) :: parts rest

/-- The characters with a meaning of their own in an expression, and white space of ASCII. -/
def specialChars : List Char := "()[]\x7b\x7d?*+-|^$\\.&~# \t\n\r\x0b\x0c".toList

def escapeSpecial (s : List Char) : List Char :=
  s.flatMap fun c => if specialChars.contains c then ['\\', c] else [c]

def Part.source : Part → List Char
  | .text chars => escapeSpecial chars
  | .group true => "(.+)".toList
  | .group false => "(.+?)".toList

def expression (p : Pattern) : String :=
  String.ofList ('^' :: (parts p.segments).flatMap Part.source ++ ['$'])

/-- What remains after a leading text. -/
def dropLeading? : (leading s : List Char) → Option (List Char)
  | [], s => some s
  | _ :: _, [] => none
  | c :: leading, d :: s => if c == d then dropLeading? leading s else none

section Groups

variable {α : Type} (next : List Char → Option α)

/-- The shortest text that a group may take so that `next` can read on; with what it read. -/
def shortestThen : List Char → Option (List Char × α)
  | [] => none
  | c :: rest =>
    if c == '\n' then none
    else match next rest with
      | some found => some ([c], found)
      | none => (shortestThen rest).map fun (taken, found) => (c :: taken, found)

/-- The longest text that a group may take so that `next` can read on; with what it read. -/
def longestThen : List Char → Option (List Char × α)
  | [] => none
  | c :: rest =>
    if c == '\n' then none
    else match longestThen rest with
      | some (taken, found) => some (c :: taken, found)
      | none => (next rest).map fun found => ([c], found)

def groupThen (greedy : Bool) : List Char → Option (List Char × α) :=
  if greedy then longestThen next else shortestThen next

end Groups

/-- The end of the expression matches at the end of the text, and before a line feed there. -/
def atEnd (s : List Char) : Bool := s.isEmpty || s == ['\n']

/-- The texts of the groups, in order, when the parts match all of `s`. -/
def matchParts : List Part → List Char → Option (List (List Char))
  | [], s => if atEnd s then some [] else none
  | .text chars :: rest, s => (dropLeading? chars s).bind (matchParts rest)
  | .group greedy :: rest, s =>
    (groupThen (matchParts rest) greedy s).map fun (taken, others) => taken :: others

end CommitStyle.Pattern
