/-! How alike two texts are. The longest block that both share is taken first, then
in the same way what lies before it and what lies after it; the more characters
lie in such blocks, the more alike the texts are. -/

namespace CommitStyle.Text

def commonPrefix : List Char → List Char → Nat
  | x :: xs, y :: ys => if x == y then commonPrefix xs ys + 1 else 0
  | _, _ => 0

/-- A block that two texts share. -/
structure Block where
  /-- Where it begins in the first text. -/
  left : Nat
  /-- Where it begins in the second text. -/
  right : Nat
  length : Nat
deriving DecidableEq, Repr

/-- What is left of a text at each of its places. -/
def suffixes : List Char → List (List Char)
  | [] => []
  | c :: rest => (c :: rest) :: suffixes rest

/-- The blocks from every two places of the texts on, in the order of the places. -/
def blocks (xs ys : List Char) : List Block :=
  (suffixes xs).zipIdx.flatMap fun (x, left) =>
    (suffixes ys).zipIdx.map fun (y, right) => ⟨left, right, commonPrefix x y⟩

/-- The longest block, and of several the first. -/
def longestBlock (xs ys : List Char) : Block :=
  (blocks xs ys).foldl (fun best block => if best.length < block.length then block else best)
    ⟨0, 0, 0⟩

/-- How many characters lie in shared blocks. The fuel bounds how often a text may still be cut;
each cut takes a character at least, so the length of the first text is enough. -/
def sharedWithin : (fuel : Nat) → List Char → List Char → Nat
  | 0, _, _ => 0
  | fuel + 1, xs, ys =>
    let block := longestBlock xs ys
    if block.length == 0 then 0
    else
      sharedWithin fuel (xs.take block.left) (ys.take block.right) + block.length +
        sharedWithin fuel (xs.drop (block.left + block.length))
          (ys.drop (block.right + block.length))

def shared (xs ys : List Char) : Nat := sharedWithin xs.length xs ys

/-- A candidate, with the characters that it shares with a text and those that the two have. -/
structure Likeness where
  candidate : String
  shared : Nat
  total : Nat
deriving DecidableEq, Repr

def likeness (text candidate : String) : Likeness where
  candidate
  shared := Text.shared candidate.toList text.toList
  total := candidate.length + text.length

/-- Whether six of ten characters are shared. -/
def Likeness.isClose (like : Likeness) : Bool := 3 * like.total ≤ 10 * like.shared

/-- Whether the first is more alike than the second; of two equal ones the later name is. -/
def Likeness.precedes (like other : Likeness) : Bool :=
  let mine := like.shared * other.total
  let yours := other.shared * like.total
  yours < mine || (yours == mine && other.candidate ≤ like.candidate)

/-- The three candidates that are most alike, of those that are close to the text, by name. -/
def closest (text : String) (candidates : List String) : List String :=
  let close := (candidates.map (likeness text)).filter Likeness.isClose
  (((close.mergeSort Likeness.precedes).take 3).map Likeness.candidate).mergeSort (· ≤ ·)

end CommitStyle.Text
