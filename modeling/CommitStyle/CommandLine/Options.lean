import CommitStyle.Text.Pieces
import CommitStyle.Text.Quoted
import CommitStyle.Text.Similar
import CommitStyle.Text.Style

/-! The options of the command line. Options may stand anywhere before a double
dash, short ones also together after one dash. Unknown options are refused
first, naming those of like spelling; then the first of help and version is
shown, whatever else stands there; then arguments that are no options are
refused. -/

namespace CommitStyle.CommandLine

def programName : String := "format-commit"

def version : String := "0.4.0"

inductive Flag
  | branch
  | configure
  | testing
  | verbose
  | version
  | help
deriving DecidableEq, Repr

namespace Flag

/-- The flags in the order of the help text. -/
def all : List Flag := [.branch, .configure, .testing, .verbose, .version, .help]

def long : Flag → String
  | .branch => "--branch"
  | .configure => "--config"
  | .testing => "--test"
  | .verbose => "--debug"
  | .version => "--version"
  | .help => "--help"

/-- The letter of a flag that has one. -/
def letter? : Flag → Option Char
  | .branch => some 'b'
  | .configure => some 'c'
  | .testing => some 't'
  | .verbose => some 'd'
  | .version | .help => none

def description : Flag → String
  | .branch => "Create a new branch with standardized naming"
  | .configure => "Generate or update the configuration file"
  | .testing => "Preview without executing git commands"
  | .verbose => "Display additional logs"
  | .version => "Show the version and exit."
  | .help => "Show this message and exit."

/-- Shown at once, in place of a run. -/
def isNotice : Flag → Bool
  | .version | .help => true
  | _ => false

def ofLong? (name : String) : Option Flag := all.find? fun flag => flag.long == name

def ofLetter? (letter : Char) : Option Flag := all.find? fun flag => flag.letter? == some letter

end Flag

/-- What is wrong with a command line. -/
inductive UsageFault
  /-- An option that there is not, and the options that it may be meant for. -/
  | noSuchOption (name : String) (similar : List String)
  | takesNoValue (name : String)
  | extraArguments (first : String) (others : List String)
deriving DecidableEq, Repr

def UsageFault.message : UsageFault → String
  | .noSuchOption name [] => s!"No such option {Text.quoted name}."
  | .noSuchOption name [similar] =>
    s!"No such option {Text.quoted name}. Did you mean {Text.quoted similar}?"
  | .noSuchOption name similar =>
    s!"No such option {Text.quoted name}. (Did you mean one of: " ++
      ", ".intercalate (similar.map Text.quoted) ++ "?)"
  | .takesNoValue name => s!"Option {Text.quoted name} does not take a value."
  | .extraArguments first [] => s!"Got unexpected extra argument ({first})"
  | .extraArguments first others =>
    "Got unexpected extra arguments (" ++ " ".intercalate (first :: others) ++ ")"

def noSuchLongOption (name : String) : UsageFault :=
  .noSuchOption name (Text.closest name (Flag.all.map Flag.long))

/-- The flags of letters after one dash. -/
def flagsOfLetters : List Char → Except UsageFault (List Flag)
  | [] => .ok []
  | letter :: rest =>
    match Flag.ofLetter? letter with
    | none => .error (.noSuchOption (String.ofList ['-', letter]) [])
    | some flag => (flagsOfLetters rest).map (flag :: ·)

/-- The flags of one argument that begins with a dash. -/
def flagsOfArgument (argument : List Char) : Except UsageFault (List Flag) :=
  let name := argument.takeWhile (· != '=')
  let hasValue := name.length < argument.length
  match Flag.ofLong? (String.ofList name) with
  | some flag => if hasValue then .error (.takesNoValue flag.long) else .ok [flag]
  | none =>
    match argument with
    | '-' :: '-' :: _ => .error (noSuchLongOption (String.ofList name))
    | _ => flagsOfLetters (argument.drop 1)

/-- The flags and the other arguments. -/
def scan : List String → Except UsageFault (List Flag × List String)
  | [] => .ok ([], [])
  | argument :: rest =>
    match argument.toList with
    | ['-', '-'] => .ok ([], rest)
    | '-' :: c :: cs => do
      let flags ← flagsOfArgument ('-' :: c :: cs)
      let (others, arguments) ← scan rest
      return (flags ++ others, arguments)
    | _ => (scan rest).map fun (flags, arguments) => (flags, argument :: arguments)

/-- What a run is asked to do. -/
structure Options where
  branch : Bool
  configure : Bool
  testing : Bool
  verbose : Bool
deriving DecidableEq, Repr

inductive Order
  | help
  | version
  | run (options : Options)
deriving DecidableEq, Repr

/-- What a command line asks for. -/
def parse (arguments : List String) : Except UsageFault Order := do
  let (flags, others) ← scan arguments
  match flags.find? Flag.isNotice, others with
  | some .help, _ => return .help
  | some _, _ => return .version
  | none, first :: others => throw (.extraArguments first others)
  | none, [] => return .run {
      branch := flags.contains .branch
      configure := flags.contains .configure
      testing := flags.contains .testing
      verbose := flags.contains .verbose }

/-! ## Texts -/

def usageLine : String := s!"Usage: {programName} [OPTIONS]\n"

/-- How the help text shows a flag. -/
def Flag.usage (flag : Flag) : String :=
  match flag.letter? with
  | some letter => s!"-{letter}, {flag.long}"
  | none => flag.long

/-- A line of the help text; the descriptions stand in one column. -/
def Flag.helpLine (flag : Flag) : String :=
  let width := (Flag.all.map (·.usage.length)).foldl max 0
  let gap := String.ofList (List.replicate (width - flag.usage.length + 2) ' ')
  s!"  {flag.usage}{gap}{flag.description}\n"

def helpText : String :=
  usageLine ++ "\n  Standardize commit titles and branch names.\n\nOptions:\n" ++
    String.join (Flag.all.map Flag.helpLine)

def versionText : String := s!"{programName}, version {version}\n"

/-- The text for a fault. That an option takes no value is said without the usage; arguments are
shown without control sequences. -/
def UsageFault.text (fault : UsageFault) : String :=
  let hint := match fault with
    | .takesNoValue _ => ""
    | _ => usageLine ++ s!"Try \x27{programName} --help\x27 for help.\n\n"
  hint ++ Text.unstyled s!"Error: {fault.message}\n"

end CommitStyle.CommandLine
