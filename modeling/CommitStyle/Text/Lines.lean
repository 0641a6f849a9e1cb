/-! Line ends. A text file may end its lines in three ways; once read, a line
ends in a line feed alone. A list of lines is cut at more characters than that:
form feeds, separators and the Unicode line ends also end a line. -/

namespace CommitStyle.Text

/-- Every line end becomes a line feed. -/
def unifyLineEnds : List Char → List Char
  | [] => []
  | '\r' :: '\n' :: rest => '\n' :: unifyLineEnds rest
  | '\r' :: rest => '\n' :: unifyLineEnds rest
  | c :: rest => c :: unifyLineEnds rest

def isLineEnd (c : Char) : Bool :=
  let n := c.toNat
  (0x0A ≤ n && n ≤ 0x0D) || (0x1C ≤ n && n ≤ 0x1E) || n == 0x85 || n == 0x2028 || n == 0x2029

/-- The lines of a text in which no line ends in a carriage return and a line feed.
A final line end opens no further line. -/
def cutLines : List Char → List (List Char)
  | [] => []
  | c :: rest =>
    if isLineEnd c then [] :: cutLines rest
    else match cutLines rest with
      | [] => [[c]]
      | line :: others => (c :: line) :: others

def lines (s : List Char) : List (List Char) := cutLines (unifyLineEnds s)

end CommitStyle.Text
