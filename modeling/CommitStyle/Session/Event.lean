import CommitStyle.Failure

/-! What reaches the outside while a flow runs: texts on the terminal, prompts,
commands, requests and lines of the log. -/

namespace CommitStyle

inductive LogLevel
  | debug
  | info
  | warning
deriving DecidableEq, Repr

def LogLevel.name : LogLevel → String
  | .debug => "DEBUG"
  | .info => "INFO"
  | .warning => "WARNING"

/-- A request to a suggestion service. -/
structure Request where
  url : String
  headers : Entries String
  body : Json
  /-- How many seconds it may take. -/
  timeout : Nat
deriving Repr

inductive Event
  /-- Text on the terminal, with tags for its style. -/
  | print (markup : String)
  /-- What a command wrote, shown dim. -/
  | output (text : String)
  | panel (text : String) (title : String)
  /-- A note that stands while a request is under way. -/
  | status (text : String)
  /-- The details of a failure. -/
  | details (failure : Failure)
  | ask (prompt : String) (secret : Bool)
  /-- An answer of the wrong kind is asked for again. -/
  | refused (notice : String)
  | command (words : List String)
  | request (request : Request)
  | log (level : LogLevel) (text : String)
deriving Repr

end CommitStyle
