import CommitStyle.Json.Display
import CommitStyle.Json.Reader
import CommitStyle.Markup.Plain
import CommitStyle.Text.Utf8

/-! What can go wrong, by cause, and how each cause is reported. Some causes end a
run with a message, others are turned into a warning by the flow that meets
them; which is which is for the flows to say. -/

namespace CommitStyle

/-- A value that cannot be used where a whole number or a list is wanted. -/
inductive ValueFault
  | number (fault : Number.WholeFault)
  /-- A text that spells no whole number. -/
  | notWhole (text : JsonText)
  | notANumber (value : Json)
  | notWholeNan
  | notIterable (value : Json)
deriving Repr

def ValueFault.message : ValueFault → String
  | .number fault => fault.message
  | .notWhole text => Number.notWholeMessage text.quoted
  | .notANumber value =>
    "int() argument must be a string, a bytes-like object or a real number, not " ++
      s!"'{value.kindName}'"
  | .notWholeNan => "cannot convert float NaN to integer"
  | .notIterable value => s!"'{value.kindName}' object is not iterable"

/-- What is wrong with a configuration. A value is held as the message shows it. -/
inductive ConfigFault
  | notAnObject
  | changeVersion (shown : String)
  | format (key : String) (shown : String)
  | entry (shown : String)
  | provider (shown : String)
  | badValue (fault : ValueFault)
  | missing (path : String)
  | unreadable (path : String) (error : Json.ReadError)
deriving Repr

def ConfigFault.message : ConfigFault → String
  | .notAnObject => "Configuration must be a JSON object"
  | .changeVersion shown => s!"Invalid changeVersion: {shown}"
  | .format key shown => s!"Invalid {key}: {shown}"
  | .entry shown => s!"Invalid type/scope entry: {shown}"
  | .provider shown => s!"Unknown AI provider: {shown}"
  | .badValue fault => s!"Invalid configuration: {fault.message}"
  | .missing path => s!"No configuration found at {path}"
  | .unreadable path error => s!"Failed to parse {path}: {error.message}"

/-- Where an answer of the suggestion service is not built as expected. -/
inductive StructureFault
  | noMember (name : String)
  | noNumberedMember (index : Nat)
  | listTooShort
  | textTooShort
  | listByName
  | textByName
  | notAContainer (value : Json)
deriving Repr

def StructureFault.message : StructureFault → String
  | .noMember name => Text.quoted name
  | .noNumberedMember index => toString index
  | .listTooShort => "list index out of range"
  | .textTooShort => "string index out of range"
  | .listByName => "list indices must be integers or slices, not str"
  | .textByName => "string indices must be integers, not 'str'"
  | .notAContainer value => s!"'{value.kindName}' object is not subscriptable"

/-- Why the suggestion service gave no usable answer. -/
inductive ServiceFault
  | keyRequired (keyName : String)
  | unknownProvider (name : String)
  | requestFailed (reason : String)
  | refused (provider : String) (status : Int) (body : String)
  | notJson (provider : String) (error : Json.ReadError)
  | unexpectedStructure (provider : String) (fault : StructureFault)
  | noArray
  | notParsed (error : Json.ReadError)
  | wrongFormat
deriving Repr

def ServiceFault.message : ServiceFault → String
  | .keyRequired keyName => s!"API key is required ({keyName} not found)"
  | .unknownProvider name => s!"Unknown AI provider: {name}"
  | .requestFailed reason => s!"API Request failed: {reason}"
  | .refused provider status body => s!"{provider} API error: {status} {body}"
  | .notJson provider error => s!"{provider} returned a non-JSON response: {error.message}"
  | .unexpectedStructure provider fault =>
    s!"Unexpected {provider} response structure: {fault.message}"
  | .noArray => "No JSON array found in AI response"
  | .notParsed error => s!"Failed to parse AI response as JSON: {error.message}"
  | .wrongFormat => "Invalid AI response format"

inductive Failure
  /-- A pattern spells a keyword with letters that only look like it. -/
  | unknownKeyword (name : String)
  | notASegment (shown : String)
  | patternMissing
  /-- A number or name that stands for no format; `kind` names what was asked for. -/
  | unknownFormat (kind : String) (shown : String)
  /-- A value stands where a text is needed. -/
  | notText (value : Json)
  /-- A value has no operation of that name. -/
  | noOperation (value : Json) (operation : String)
  | notAPath (value : Json)
  | notAKey (value : Json)
  /-- A choice was made from an empty list. -/
  | nothingToChoose
  /-- Details of a failure were asked for, but nothing has failed. -/
  | nothingFailed
  | infiniteWhole
  | number (fault : Number.WholeFault)
  /-- A text for the terminal has tags that do not fit. -/
  | markup (fault : Markup.Fault)
  | config (fault : ConfigFault)
  | git (action : String) (detail : String)
  | npm (detail : String)
  | service (fault : ServiceFault)
  | undecodable (error : Text.Utf8Error)
  | noSuchFile (path : String)
  | isDirectory (path : String)
  | notADirectory (path : String)
  | noSuchCommand (name : String)
  /-- The user pressed the interrupt key. -/
  | interrupted
  | inputExhausted
deriving Repr

namespace Failure

/-- A failure of the system, with its number. -/
def systemMessage (number : Nat) (reason path : String) : String :=
  s!"[Errno {number}] {reason}: {Text.quoted path}"

def message : Failure → String
  | unknownKeyword name => s!"Unknown keyword in compiled pattern: {Text.quoted name}"
  | notASegment shown => s!"Not a pattern segment: {shown}"
  | patternMissing => "A custom format requires a pattern"
  | unknownFormat kind shown => s!"{shown} is not a valid {kind}"
  | notText value => s!"expected string or bytes-like object, got '{value.kindName}'"
  | noOperation value operation =>
    s!"'{value.kindName}' object has no attribute {Text.quoted operation}"
  | notAPath value => s!"expected str, bytes or os.PathLike object, not {value.kindName}"
  | notAKey value => s!"unhashable type: '{value.kindName}'"
  | nothingToChoose => "list index out of range"
  | nothingFailed => "'NoneType' object has no attribute '__name__'"
  | infiniteWhole => "cannot convert float infinity to integer"
  | number fault => fault.message
  | markup fault => fault.message
  | config fault => fault.message
  | git action detail => s!"Failed to {action}: {detail}"
  | npm detail => s!"Failed to change version: {detail}"
  | service fault => fault.message
  | undecodable error => error.message
  | noSuchFile path => systemMessage 2 "No such file or directory" path
  | isDirectory path => systemMessage 21 "Is a directory" path
  | notADirectory path => systemMessage 20 "Not a directory" path
  | noSuchCommand name => systemMessage 2 "No such file or directory" name
  | interrupted => ""
  | inputExhausted => "no more input"

end Failure

namespace Json

/-- The text that shows the value in a message. -/
def inspected (value : Json) : Except Failure String := value.inspect.mapError Failure.number

/-- The text that shows the value bare in a message. -/
def displayed (value : Json) : Except Failure String := value.display.mapError Failure.number

end Json

end CommitStyle
