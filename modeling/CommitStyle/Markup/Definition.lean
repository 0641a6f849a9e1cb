import CommitStyle.Entries
import CommitStyle.Markup.Palette
import CommitStyle.Text.Case

/-! Definitions of styles, in words. Definitions of the same effect have the same
normal form: each attribute by its full name and in a fixed order, then the
colours, then a link. What defines no style is its own normal form, in lower
case. -/

namespace CommitStyle.Markup

/-- The attributes in the order of the normal form. -/
def attributeNames : List String :=
  ["bold", "dim", "italic", "underline", "blink", "blink2", "reverse", "conceal", "strike",
    "underline2", "frame", "encircle", "overline"]

/-- Short names of attributes. -/
def shortNames : List (String × String) :=
  [("b", "bold"), ("d", "dim"), ("i", "italic"), ("u", "underline"), ("r", "reverse"),
    ("c", "conceal"), ("s", "strike"), ("uu", "underline2"), ("o", "overline")]

/-- The attribute that a word names. -/
def attribute? (word : String) : Option String :=
  if attributeNames.contains word then some word
  else (shortNames.find? fun entry => entry.1 == word).map Prod.snd

structure Definition where
  /-- Attributes that are switched on or off. -/
  attributes : Entries Bool := []
  colour : Option String := none
  background : Option String := none
  link : Option String := none
deriving DecidableEq, Repr

namespace Definition

/-- Adds what the words define; nothing if they define no style. Of two words for the same thing
the later counts. -/
def extend (definition : Definition) : List String → Except Number.WholeFault (Option Definition)
  | [] => .ok (some definition)
  | word :: rest =>
    let lower := Text.lower word
    if lower == "on" then
      match rest with
      | [] => .ok none
      | colour :: rest => do
        let colour := Text.lower colour
        if ← isColour colour then extend { definition with background := some colour } rest
        else return none
    else if lower == "not" then
      match rest with
      | [] => .ok none
      | name :: rest =>
        match attribute? name with
        | some name =>
          extend { definition with attributes := definition.attributes.insert name false } rest
        | none => .ok none
    else if lower == "link" then
      match rest with
      | [] => .ok none
      | target :: rest => extend { definition with link := some target } rest
    else
      match attribute? lower with
      | some name =>
        extend { definition with attributes := definition.attributes.insert name true } rest
      | none => do
        if ← isColour lower then extend { definition with colour := some lower } rest
        else return none

def words (definition : Definition) : List String :=
  (attributeNames.filterMap fun name =>
    (definition.attributes.get? name).map fun on => if on then name else "not " ++ name) ++
  definition.colour.toList ++
  (definition.background.map ("on " ++ ·)).toList ++
  (definition.link.map ("link " ++ ·)).toList

def text (definition : Definition) : String :=
  if definition.words.isEmpty then "none" else " ".intercalate definition.words

end Definition

/-- The normal form of a definition. -/
def normalForm (text : String) : Except Number.WholeFault String := do
  if Text.strip text == "none" then return "none"
  match ← Definition.extend {} ((Text.words text.toList).map String.ofList) with
  | some definition => return definition.text
  | none => return Text.lower (Text.strip text)

end CommitStyle.Markup
