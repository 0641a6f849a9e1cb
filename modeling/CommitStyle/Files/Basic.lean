import CommitStyle.Failure
import CommitStyle.Files.Path
import CommitStyle.Text.Lines

/-! The files below the working directory. Each stands under the parts of its
path joined by slashes; a directory is there when it is listed itself or when
something in it is. Where a path leads is found part by part, so that a part
that is a file, or missing, stops it. -/

namespace CommitStyle

/-- What stands at a path. -/
inductive Node
  | text (content : String)
  /-- Bytes that are no text. -/
  | bytes (content : List Nat)
  | directory
deriving DecidableEq, Repr

abbrev Files := Entries Node

namespace Node

def isDirectory : Node → Bool
  | .directory => true
  | _ => false

end Node

namespace Files

def placeName (place : List String) : String := "/".intercalate place

/-- Whether something stands below the place. -/
def hasBelow (files : Files) (place : List String) : Bool :=
  files.any fun entry => (placeName place ++ "/").isPrefixOf entry.1

/-- What stands at a place; the working directory itself is the place without parts. -/
def at? (files : Files) (place : List String) : Option Node :=
  if place.isEmpty then some .directory
  else match files.get? (placeName place) with
    | some node => some node
    | none => if files.hasBelow place then some .directory else none

/-- Why a path leads to no place. -/
inductive PathFault
  | missing
  | notADirectory
deriving DecidableEq, Repr

def PathFault.at (path : String) : PathFault → Failure
  | .missing => .noSuchFile path
  | .notADirectory => .notADirectory path

/-- Follows the pieces of a path from a directory on. Only the last one may be missing. -/
def follow (files : Files) (place : List String) : List String → Except PathFault (List String)
  | [] => .ok place
  | piece :: rest =>
    if Path.isIdle piece then follow files place rest
    else if piece == ".." then
      if place.isEmpty then .error .missing else follow files place.dropLast rest
    else
      let next := place ++ [piece]
      if rest.isEmpty then .ok next
      else match files.at? next with
        | none => .error .missing
        | some .directory => follow files next rest
        | some _ => .error .notADirectory

/-- The place that a path leads to. Nothing outside the working directory is looked at. -/
def place (files : Files) (path : String) : Except PathFault (List String) :=
  if Path.isAbsolute path then .error .missing else files.follow [] (Path.pieces path)

/-- What a path leads to. -/
def find (files : Files) (path : String) : Except PathFault Node := do
  match files.at? (← files.place path) with
  | some node => return node
  | none => .error .missing

def isThere (files : Files) (path : String) : Bool := (files.find path).isOk

/-- Whether a path leads to something that can be read. -/
def isFile (files : Files) (path : String) : Bool :=
  match files.find path with
  | .ok node => !node.isDirectory
  | .error _ => false

/-- The text of a file, with its line ends unified. -/
def read (files : Files) (path : String) : Except Failure String := do
  let content ← match files.find path with
    | .ok (.text content) => pure content
    | .ok (.bytes content) => (Text.decodeUtf8 content).mapError .undecodable
    | .ok .directory => .error (.isDirectory path)
    | .error fault => .error (fault.at path)
  return String.ofList (Text.unifyLineEnds content.toList)

/-- Puts a text in place of a file, or makes the file. -/
def write (files : Files) (path content : String) : Except Failure Files := do
  let place ← (files.place path).mapError (PathFault.at path)
  match files.at? place with
  | some .directory => .error (.isDirectory path)
  | _ => return files.insert (placeName place) (.text content)

/-- Makes an empty file where there is nothing. -/
def touch (files : Files) (path : String) : Except Failure Files := do
  let place ← (files.place path).mapError (PathFault.at path)
  match files.at? place with
  | some _ => return files
  | none => return files.insert (placeName place) (.text "")

end Files

end CommitStyle
