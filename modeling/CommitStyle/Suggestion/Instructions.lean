import CommitStyle.Git
import CommitStyle.Title.Accept

/-! The instructions for the suggestion service: the staged changes, the format of
titles with an example, and the vocabulary. -/

namespace CommitStyle.Suggestion

/-- How many titles are asked for. -/
def titleCount : Nat := 4

/-- What the service is told about its part. -/
def role : String :=
  "You are a commit message generator. You MUST respond with ONLY a JSON array. " ++
    "NO explanations. NO markdown. NO additional text whatsoever."

/-- A built-in shape as the instructions put it, up to the message. -/
def shapeText : Shape → String
  | .paren => "(type)"
  | .colon => "type:"
  | .scope => "type(scope)"
  | .scopeColon => "type(scope):"

/-- A message style as the instructions put it. -/
def styleText : Style → String
  | .sentence => "Title with first letter capitalized"
  | .lower => "title in lowercase"

def formatInstruction (config : Config) : Except Failure String :=
  match config.format with
  | .builtin shape style => .ok s!"Format: {shapeText shape} {styleText style}"
  | .custom => do
    return s!"Format: {← config.customFormat.displayed} " ++
      "(type, scope and description are placeholders, keep every other character exactly)"

/-- The entries of a vocabulary, each with its description. -/
def listed (choices : List Choice) : String :=
  ", ".intercalate (choices.map fun choice => s!"{choice.value} ({choice.description})")

def scopesLine (config : Config) : String :=
  if config.scopes.isEmpty then "- No scopes - DO NOT include scope in output"
  else "- Available scopes: " ++ listed config.scopes

def instructions (config : Config) (staged : StagedDiff) (fields : Entries String) :
    Except Failure String := do
  let format ← formatInstruction config
  let sample ← config.exampleTitle fields
  return "You must analyze git changes and return ONLY a valid JSON array. " ++
    "NO explanations, NO markdown, NO additional text.\n\n" ++
    s!"Git diff stats:\n{staged.stats}\n\n" ++
    s!"Git diff:\n{staged.diff}\n\n" ++
    "STRICT REQUIREMENTS:\n" ++
    s!"- {format}\n" ++
    s!"- Example format: \"{sample}\"\n" ++
    s!"- Available types: {listed config.types}\n" ++
    s!"{scopesLine config}\n" ++
    s!"- Length: {config.minLength}-{config.maxLength} chars per title\n" ++
    s!"- Return exactly {titleCount} different commit titles\n" ++
    "- Output MUST be a raw JSON array with NO text before or after\n\n" ++
    "YOUR RESPONSE MUST BE EXACTLY THIS FORMAT (no other text):\n" ++
    "[\"title 1\", \"title 2\", \"title 3\", \"title 4\"]"

/-- A rough size: one token for four characters, a part of four counting as a whole. -/
def tokenCount (text : String) : Nat := (text.length + 3) / 4

end CommitStyle.Suggestion
