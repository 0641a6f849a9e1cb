import CommitStyle.Config.Read
import CommitStyle.Config.Write
import CommitStyle.Session.Basic

/-! The configuration file: where it is, loading and saving it. -/

namespace CommitStyle

/-- The name of the configuration file, unless the environment gives another path. -/
def defaultConfigFile : String := "commit-config.json"

def configPath (environment : Entries String) : String :=
  Path.collapse ((environment.get? "FORMAT_COMMIT_CONFIG").getD defaultConfigFile)

namespace Config

/-- The settings that a text gives; `path` is where the text was found. -/
def ofText (path text : String) : Except Failure Json :=
  match Json.read text with
  | .ok data => .ok data
  | .error (.number fault) => .error (.number fault)
  | .error error => refuse (.unreadable path error)

/-- The text of the configuration file. -/
def readText (files : Files) (path : String) : Except Failure String :=
  match files.read path with
  | .error (.noSuchFile _) => refuse (.missing path)
  | result => result

def load (path : String) : Flow Config := do
  let data ← ofText path (← readText (← get).files path)
  Flow.debug s!"Loaded configuration from {path}"
  Config.ofJson data

def save (config : Config) (path : String) : Flow Unit := do
  Flow.writeText path config.fileText
  Flow.debug s!"Saved configuration to {path}"

end Config

end CommitStyle
