/-! Membership in a class of characters that is given by ranges of code points. -/

namespace CommitStyle.Text

/-- Both ends of a range belong to it. -/
def inRanges (ranges : List (Nat × Nat)) (n : Nat) : Bool :=
  ranges.any fun r => r.1 ≤ n && n ≤ r.2

end CommitStyle.Text
