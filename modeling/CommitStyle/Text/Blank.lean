/-! White space and trimming. The class is that of Unicode together with the
four information separators and the next line control; zero width characters
are not in it. -/

namespace CommitStyle.Text

def isBlank (c : Char) : Bool :=
  let n := c.toNat
  (0x09 ≤ n && n ≤ 0x0D) || (0x1C ≤ n && n ≤ 0x20) || n == 0x85 || n == 0xA0 ||
    n == 0x1680 || (0x2000 ≤ n && n ≤ 0x200A) || n == 0x2028 || n == 0x2029 ||
    n == 0x202F || n == 0x205F || n == 0x3000

/-- White space that stays on its line. -/
def isInlineBlank (c : Char) : Bool := isBlank c && c != '\n' && c != '\r'

def trimStart (s : List Char) : List Char := s.dropWhile isBlank

def trimEnd (s : List Char) : List Char := (s.reverse.dropWhile isBlank).reverse

/-- Without the white space at both ends. -/
def trim (s : List Char) : List Char := trimEnd (trimStart s)

def strip (s : String) : String := String.ofList (trim s.toList)

def stripEnd (s : String) : String := String.ofList (trimEnd s.toList)

/-- What stands between white space, also where that is nothing. -/
def betweenBlanks : List Char → List (List Char)
  | [] => [[]]
  | c :: rest =>
    if isBlank c then [] :: betweenBlanks rest
    else match betweenBlanks rest with
      | [] => [[c]]
      | word :: others => (c :: word) :: others

/-- The words between white space. -/
def words (s : List Char) : List (List Char) := (betweenBlanks s).filter (!·.isEmpty)

/-- Nothing but white space, or nothing at all. -/
def isBlankText (s : String) : Bool := s.toList.all isBlank

end CommitStyle.Text
