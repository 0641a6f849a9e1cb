import CommitStyle.Text.Blank
import CommitStyle.Text.Case

/-! Slugs: text made safe to stand in a branch name. White space and dashes
divide the text into words, of which only ASCII letters and digits stay; words
that lose every character are left out, the others are joined by single dashes. -/

namespace CommitStyle.Slug

def isSeparator (c : Char) : Bool := Text.isBlank c || c == '-'

/-- The characters that stay. -/
def isKept (preserveCase : Bool) (c : Char) : Bool :=
  ('0' ≤ c && c ≤ '9') || ('a' ≤ c && c ≤ 'z') || (preserveCase && 'A' ≤ c && c ≤ 'Z')

/-- The kept characters of the words between separators, also of empty ones. There is always
one word at least. -/
def words (preserveCase : Bool) : List Char → List (List Char)
  | [] => [[]]
  | c :: rest =>
    if isSeparator c then [] :: words preserveCase rest
    else match words preserveCase rest with
      | [] => [[c]]
      | word :: others => (if isKept preserveCase c then c :: word else word) :: others

def ofChars (preserveCase : Bool) (s : List Char) : List Char :=
  ['-'].intercalate ((words preserveCase s).filter (!·.isEmpty))

/-- The slug of a value. It is lower case unless the case is to be preserved. -/
def sanitize (value : String) (preserveCase : Bool) : String :=
  String.ofList
    (ofChars preserveCase (if preserveCase then value.toList else Text.lowerChars value.toList))

end CommitStyle.Slug
