import CommitStyle.Entries
import CommitStyle.Json.Text
import CommitStyle.Number.Binary64

/-! Values of the JSON data model. Whole numbers are kept apart from floating
ones and have no bound; the members of an object keep their order. -/

namespace CommitStyle

inductive Json
  | null
  | bool (value : Bool)
  | int (value : Int)
  | float (value : Number.Binary64)
  | str (value : JsonText)
  | arr (items : List Json)
  | obj (members : List (JsonText × Json))
deriving Inhabited, Repr

namespace Json

/-- Empty, zero and null values count as absent wherever a default stands ready. -/
def isTruthy : Json → Bool
  | .null => false
  | .bool b => b
  | .int n => n != 0
  | .float (.finite _ m _) => m != 0
  | .float _ => true
  | .str s => !s.isEmpty
  | .arr items => !items.isEmpty
  | .obj members => !members.isEmpty

/-- The name that messages give to the kind of a value. -/
def kindName : Json → String
  | .null => "NoneType"
  | .bool _ => "bool"
  | .int _ => "int"
  | .float _ => "float"
  | .str _ => "str"
  | .arr _ => "list"
  | .obj _ => "dict"

/-- The value of a whole number or truth value. -/
def asWhole? : Json → Option Int
  | .int n => some n
  | .bool b => some (if b then 1 else 0)
  | _ => none

/-- Equality of two numbers of any kind; truth values count as one and zero. -/
def sameNumber : Json → Json → Bool
  | .float x, .float y => x.same y
  | .float (.finite s m e), y => y.asWhole?.any fun n => Number.Binary64.isWhole s m e n
  | x, .float (.finite s m e) => x.asWhole?.any fun n => Number.Binary64.isWhole s m e n
  | x, y => match x.asWhole?, y.asWhole? with
    | some m, some n => m == n
    | _, _ => false

mutual

/-- Equality of values: numbers by value, objects whatever the order of their members. -/
def same : Json → Json → Bool
  | .null, .null => true
  | .str s, .str t => s == t
  | .arr xs, .arr ys => sameItems xs ys
  | .obj xs, .obj ys => xs.length == ys.length && sameMembers xs ys
  | x, y => sameNumber x y

def sameItems : List Json → List Json → Bool
  | [], [] => true
  | x :: xs, y :: ys => same x y && sameItems xs ys
  | _, _ => false

/-- Whether each of the members has an equal one among the others. -/
def sameMembers : List (JsonText × Json) → List (JsonText × Json) → Bool
  | [], _ => true
  | (key, x) :: rest, ys =>
    (match Entries.get? ys key with
      | some y => same x y
      | none => false) && sameMembers rest ys

end

def get? : Json → String → Option Json
  | .obj members, key => Entries.get? members (.whole key)
  | _, _ => none

/-- The member of that name, or the default if there is none. -/
def getD (value : Json) (key : String) (fallback : Json) : Json := (value.get? key).getD fallback

end Json

end CommitStyle
