import CommitStyle.Json.Writer
import CommitStyle.Suggestion.Instructions
import CommitStyle.Suggestion.Titles

/-! Asking a suggestion service. Each provider has its own place to ask, its own
header for the key, its own shape of request and its own place for the text in
its answer. -/

namespace CommitStyle.Suggestion

inductive Provider
  | anthropic
  | openai
  | google
deriving DecidableEq, Repr

/-- A step into an answer: by the name or by the number of a member. -/
inductive Step
  | name (name : String)
  | number (index : Nat)
deriving DecidableEq, Repr

/-- How many tokens an answer may have. -/
def maxTokens : Int := 200

namespace Provider

def ofName? : String → Option Provider
  | "anthropic" => some .anthropic
  | "openai" => some .openai
  | "google" => some .google
  | _ => none

/-- The name that messages about a refused request give. -/
def label : Provider → String
  | .anthropic => "Anthropic"
  | .openai => "OpenAI"
  | .google => "Gemini"

def url (model : Json) : Provider → Except Failure String
  | .anthropic => .ok "https://api.anthropic.com/v1/messages"
  | .openai => .ok "https://api.openai.com/v1/chat/completions"
  | .google => do
    return "https://generativelanguage.googleapis.com/v1beta/models/" ++ (← model.displayed) ++
      ":generateContent"

/-- The header that carries the key. -/
def keyHeader (key : String) : Provider → String × String
  | .anthropic => ("x-api-key", key)
  | .openai => ("Authorization", "Bearer " ++ key)
  | .google => ("x-goog-api-key", key)

/-- The headers that do not depend on the key. -/
def fixedHeaders : Provider → List (String × String)
  | .anthropic =>
    [("Content-Type", "application/json"), ("anthropic-version", "2023-06-01")]
  | .openai | .google => [("Content-Type", "application/json")]

def message (role content : String) : Json :=
  .obj [("role", .str (.whole role)), ("content", .str (.whole content))]

def parts (text : String) : Json := .obj [("parts", .arr [.obj [("text", .str (.whole text))]])]

def body (model : Json) (instructions : String) : Provider → Json
  | .anthropic => .obj [("model", model), ("max_tokens", .int maxTokens), ("system", .str role),
      ("messages", .arr [message "user" instructions])]
  | .openai => .obj [("model", model), ("max_tokens", .int maxTokens),
      ("messages", .arr [message "system" role, message "user" instructions])]
  | .google => .obj [("system_instruction", parts role), ("contents", .arr [parts instructions])]

/-- Where the text stands in an answer. -/
def textPath : Provider → List Step
  | .anthropic => [.name "content", .number 0, .name "text"]
  | .openai => [.name "choices", .number 0, .name "message", .name "content"]
  | .google => [.name "candidates", .number 0, .name "content", .name "parts", .number 0,
      .name "text"]

/-- How many seconds a request may take. -/
def timeout : Nat := 30

def request (provider : Provider) (url : String) (model : Json) (key instructions : String) :
    Request where
  url
  headers := provider.fixedHeaders ++ [provider.keyHeader key]
  body := provider.body model instructions
  timeout

end Provider

/-- One step into a value. -/
def Step.into : Step → Json → Except StructureFault Json
  | .name member, .obj members =>
    match Entries.get? members (.whole member) with
    | some value => .ok value
    | none => .error (.noMember member)
  | .name _, .arr _ => .error .listByName
  | .name _, .str _ => .error .textByName
  | .number index, .arr items =>
    match items[index]? with
    | some value => .ok value
    | none => .error .listTooShort
  | .number index, .str text =>
    match text.characters[index]? with
    | some character => .ok (.str character)
    | none => .error .textTooShort
  | .number index, .obj _ => .error (.noNumberedMember index)
  | _, value => .error (.notAContainer value)

/-- The value at the end of a path. -/
def valueAt (path : List Step) (value : Json) : Except StructureFault Json :=
  path.foldlM (fun value step => step.into value) value

/-- The value that a reply has in place of the text. -/
def readReply (provider : Provider) (providerName : String) (reply : Reply) :
    Except ServiceFault Json :=
  match reply with
  | .failed reason => .error (.requestFailed reason)
  | .answered status body =>
    if 400 ≤ status ∧ status < 600 then .error (.refused provider.label status body)
    else match Json.read body with
      | .error error => .error (.notJson provider.label error)
      | .ok value =>
        (valueAt provider.textPath value).mapError (.unexpectedStructure providerName)

/-- A service can be asked if there is a key. -/
def requireKey (ai : AiSettings) (key : String) : Except Failure Unit := do
  if key.isEmpty then throw (.service (.keyRequired (← ai.keyName.displayed)))

/-- What the provider writes when it is given the instructions. -/
def complete (ai : AiSettings) (key instructions : String) : Flow Json := do
  Flow.logOn .debug ai.model fun model => s!"Requesting suggestions from {ai.provider} ({model})"
  match Provider.ofName? ai.provider with
  | none => throw (.service (.unknownProvider ai.provider))
  | some provider =>
    let url ← provider.url ai.model
    let reply ← Flow.send (provider.request url ai.model key instructions)
    let answer ← (readReply provider ai.provider reply).mapError Failure.service
    return answer

/-- The titles in what the provider wrote. -/
def titlesIn (answer : Json) : Flow (List JsonText) := do
  match answer with
  | .str text =>
    let text := text.toString
    if (bracketed? text.toList).isNone then
      Flow.debug s!"AI response without JSON array: {text}"
    extract text
  | value => throw (.notText value)

/-- Accepted titles for what is staged. -/
def generate (config : Config) (key instructions : String) (fields : Entries String) :
    Flow (List String) := do
  let titles ← titlesIn (← complete config.ai key instructions)
  acceptable config titles fields

/-- The prompt that is given, or the instructions for what is staged where none is given or
an empty one. -/
def promptFor (config : Config) (staged : StagedDiff) (fields : Entries String)
    (given : Option String) : Except Failure String :=
  match given.filter (!·.isEmpty) with
  | some prompt => .ok prompt
  | none => instructions config staged fields

/-- Accepted titles from a service that has to have a key. -/
def titlesFor (config : Config) (key : String) (staged : StagedDiff) (fields : Entries String)
    (given : Option String) : Flow (List String) := do
  requireKey config.ai key
  generate config key (← promptFor config staged fields given) fields

end CommitStyle.Suggestion
