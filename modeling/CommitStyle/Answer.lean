import CommitStyle.Slug
import CommitStyle.Text.Quoted
import CommitStyle.Version

/-! Checks on what a user answers. A check gives the fault of an answer, or
nothing if the answer will do; its message can be shown before asking again. -/

namespace CommitStyle

/-- What is wrong with an answer. -/
inductive AnswerFault
  | titleTooShort (title : String) (least : Int)
  | titleTooLong (title : String) (most : Int)
  /-- A length that is absent or below one. -/
  | notALength (length : Option Int)
  | lengthTooHigh
  | maximumBelowMinimum (least : Int)
  | notAVersion
  | descriptionTooLong
  | emptyTitle
  | emptyBranchDescription
  | branchDescriptionTooLong (length : Nat) (most : Int)
  | noLetterOrDigit (label : String)
  | emptyField (label : String)
deriving DecidableEq, Repr

/-- The highest length that can be set up. -/
def maxSetupLength : Int := 255

/-- The length of the longest description. -/
def maxDescriptionLength : Nat := 255

def AnswerFault.message : AnswerFault → String
  | .titleTooShort title least =>
    s!"Commit title too short ({title.length} < {least} characters): {Text.quoted title}"
  | .titleTooLong title most =>
    s!"Commit title too long ({title.length} > {most} characters): {Text.quoted title}"
  | .notALength none => "None isn't a valid length"
  | .notALength (some length) => s!"{length} isn't a valid length"
  | .lengthTooHigh => s!"Length cannot be higher than {maxSetupLength}"
  | .maximumBelowMinimum least => s!"Maximum length must be at least {least}"
  | .notAVersion => "Version does not respect semantic versioning"
  | .descriptionTooLong =>
    s!"Commit description too long (max {maxDescriptionLength} characters)"
  | .emptyTitle => "Commit title cannot be empty"
  | .emptyBranchDescription => "Branch description cannot be empty"
  | .branchDescriptionTooLong length most =>
    s!"Branch description too long ({length} > {most} characters)"
  | .noLetterOrDigit label => s!"{label} must contain at least one letter or digit"
  | .emptyField label => s!"{label} cannot be empty"

namespace Answer

def titleFault? (title : String) (least most : Int) : Option AnswerFault :=
  if (title.length : Int) < least then some (.titleTooShort title least)
  else if most < title.length then some (.titleTooLong title most)
  else none

def setupLengthFault? : Option Int → Option AnswerFault
  | none => some (.notALength none)
  | some length =>
    if length < 1 then some (.notALength (some length))
    else if maxSetupLength < length then some .lengthTooHigh
    else none

/-- A maximum has to be a length, and no less than the minimum. -/
def maximumFault? (least length : Int) : Option AnswerFault :=
  (setupLengthFault? (some length)).or
    (if length < least then some (.maximumBelowMinimum least) else none)

def versionFault? (version : String) : Option AnswerFault :=
  if Version.isVersion version then none else some .notAVersion

def descriptionFault? (description : String) : Option AnswerFault :=
  if maxDescriptionLength < description.length then some .descriptionTooLong else none

def branchDescriptionFault? (description : String) (most : Int) : Option AnswerFault :=
  if Text.isBlankText description then some .emptyBranchDescription
  else if most < description.length then
    some (.branchDescriptionTooLong description.length most)
  else if (Slug.sanitize description false).isEmpty then
    some (.noLetterOrDigit "Branch description")
  else none

/-- In a branch name a field must leave something of its value. -/
def fieldFault? (value label : String) (inBranch : Bool) : Option AnswerFault :=
  if Text.isBlankText value then some (.emptyField label)
  else if inBranch && (Slug.sanitize value true).isEmpty then some (.noLetterOrDigit label)
  else none

end Answer

end CommitStyle
