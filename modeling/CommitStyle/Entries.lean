/-! Ordered dictionaries, mostly with strings as keys: each key stands at the place
of its first insertion, and a later value replaces an earlier one there. -/

namespace CommitStyle

abbrev Entries (α : Type) (κ : Type := String) := List (κ × α)

namespace Entries

variable {α κ : Type} [BEq κ]

def get? (entries : Entries α κ) (key : κ) : Option α :=
  (entries.find? fun entry => entry.1 == key).map Prod.snd

def has (entries : Entries α κ) (key : κ) : Bool := (entries.get? key).isSome

def keys (entries : Entries α κ) : List κ := entries.map Prod.fst

/-- Replaces the value in place, or appends the entry. -/
def insert (entries : Entries α κ) (key : κ) (value : α) : Entries α κ :=
  match entries with
  | [] => [(key, value)]
  | (k, v) :: rest => if k == key then (k, value) :: rest else (k, v) :: insert rest key value

/-- Keeps the value that is there already. -/
def insertNew (entries : Entries α κ) (key : κ) (value : α) : Entries α κ :=
  if entries.has key then entries else entries ++ [(key, value)]

/-- The values of `later` win. -/
def update (entries later : Entries α κ) : Entries α κ :=
  later.foldl (fun acc entry => acc.insert entry.1 entry.2) entries

end Entries

end CommitStyle
