/-! Cutting a text at a separator. The separators are not part of the pieces;
there is one piece more than there are separators, so joining the pieces again
gives the text back. -/

namespace CommitStyle.Text

/-- The pieces between the separators; one at least. -/
def pieces (separator : Char) : List Char → List (List Char)
  | [] => [[]]
  | c :: rest =>
    if c == separator then [] :: pieces separator rest
    else match pieces separator rest with
      | [] => [[c]]
      | piece :: others => (c :: piece) :: others

theorem pieces_ne_nil (separator : Char) (s : List Char) : pieces separator s ≠ [] := by
  cases s with
  | nil => simp [pieces]
  | cons c rest =>
    simp only [pieces]
    split
    · simp
    · split <;> simp

/-- Puts the separator between the pieces. -/
def joinPieces (separator : Char) (pieces : List (List Char)) : List Char :=
  [separator].intercalate pieces

end CommitStyle.Text
