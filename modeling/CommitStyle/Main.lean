import CommitStyle.CommandLine.Run
import CommitStyle.Session.Terminal

/-! The program. It reads the files that a run may look at, shows what happens,
reads a line whenever one is asked for, and writes the files that a run has
changed. It starts no commands and sends no requests: each command counts as
not installed. A run depends on nothing but its session, so it can be taken up
again with one line more. -/

namespace CommitStyle.Main

/-- What stands at a path; something that is there but cannot be read counts as a directory. -/
def nodeAt? (path : String) : IO (Option Node) := do
  try
    let bytes := (← IO.FS.readBinFile path).toList.map UInt8.toNat
    match Text.decodeUtf8 bytes with
    | .ok content => return some (.text content)
    | .error _ => return some (.bytes bytes)
  catch
    | .noFileOrDirectory .. => return none
    | _ => return some .directory

/-- The files with what stands at one path more, and at the directories on the way. -/
def addPath (files : Files) (path : String) : IO Files := do
  if Path.isAbsolute path then return files
  let parts := Path.parts path
  let mut files := files
  for count in List.range parts.length do
    let place := Files.placeName (parts.take (count + 1))
    if !files.has place then
      if let some node ← nodeAt? place then files := files ++ [(place, node)]
  return files

/-- The paths that a run with this configuration may look at. -/
def pathsOf (files : Files) (configFile : String) : List String :=
  let keyFile := match Flow.runOn (Config.load configFile) { files } with
    | (.ok config, _) => config.ai.envPath.display.toOption.getD ""
    | (.error _, _) => ""
  [".gitignore", ".env", keyFile]

def display (events : List Event) : IO Unit := do
  let output ← IO.getStdout
  for event in events do output.putStr event.shown
  output.flush

/-- The line that was typed, if there is one. -/
def readLine? : IO (Option String) := do
  let line ← (← IO.getStdin).getLine
  if line.isEmpty then return none
  else return some (String.ofList (line.toList.filter (· != '\n')))

/-- Runs the flow anew with one line more for each line that it asks for. The first `shown`
events have been shown already. Gives the files before and after the run. -/
partial def converse (options : CommandLine.Options) (session : Session) (shown : Nat) :
    IO (CommandLine.Exit × Files × Files) := do
  let finish (shown : Nat) : IO (CommandLine.Exit × Files × Files) := do
    let (result, after) := Flow.runOn (CommandLine.perform options) session
    display (after.events.drop shown)
    return (result.toOption.getD { code := 1 }, session.files, after.files)
  match Flow.runOn (CommandLine.start options) session with
  | (.error .inputExhausted, after) =>
    display (after.events.drop shown)
    match ← readLine? with
    | none => finish after.events.length
    | some line =>
      let files ← addPath session.files (Text.strip line)
      converse options { session with input := session.input ++ [some line], files }
        after.events.length
  | _ => finish shown

/-- Writes the files that differ from those before. -/
def writeChanges (before after : Files) : IO Unit := do
  for (path, node) in after do
    match node with
    | .text content => if before.get? path != some node then IO.FS.writeFile path content
    | _ => pure ()

def perform (options : CommandLine.Options) : IO UInt32 := do
  let environment := match ← IO.getEnv "FORMAT_COMMIT_CONFIG" with
    | some path => [("FORMAT_COMMIT_CONFIG", path)]
    | none => []
  let configFile := configPath environment
  let files ← addPath [] configFile
  let files ← (pathsOf files configFile).foldlM addPath files
  let session : Session := { environment, files, rules := [⟨"", .notInstalled⟩] }
  let (exit, before, after) ← converse options session 0
  writeChanges before after
  return exit.code.toUInt32

end CommitStyle.Main

def main (arguments : List String) : IO UInt32 := do
  match CommitStyle.CommandLine.parse arguments with
  | .ok (.run options) => CommitStyle.Main.perform options
  | _ =>
    let (result, _) := CommitStyle.Flow.runOn (CommitStyle.CommandLine.run arguments) {}
    let exit := result.toOption.getD { code := 2 }
    IO.print exit.text
    return exit.code.toUInt32
