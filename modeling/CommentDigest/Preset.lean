/-
Endpoint presets: the settings a user starts from.
-/
import CommentDigest.Json.Printer
import CommentDigest.Text.Case

namespace CommentDigest

/-- a header whose value is a template -/
structure HeaderTemplate where
  name : String
  value : String
  deriving DecidableEq, Repr, Inhabited

/-- an endpoint with known settings -/
inductive Preset where
  | openai
  | ollama
  deriving DecidableEq, Repr, Inhabited

namespace Preset

def name : Preset → String
  | openai => "openai"
  | ollama => "ollama"

/-- the preset with a name in any case -/
def ofName? (s : String) : Except String Preset :=
  match lowercase s with
  | "openai" => .ok openai
  | "ollama" => .ok ollama
  | other => .error ("Unknown preset '" ++ other ++ "' (expected openai or ollama)")

def model : Preset → String
  | openai => "gpt-3.5-turbo-0125"
  | ollama => "llama3"

def apiUrl : Preset → String
  | openai => "https://api.openai.com/v1/chat/completions"
  | ollama => "http://localhost:11434/api/generate"

/-- where the endpoint's answer holds the text -/
def responsePath : Preset → String
  | openai => "choices[0].message.content"
  | ollama => "response"

/-- the placeholder for the prompt -/
def promptPlaceholder : String := "\x7b$llmPrompt\x7d"

/-- the request body; the placeholder for the prompt stands inside a string -/
def body : Preset → Json
  | openai => .object [
      ("model", .string openai.model),
      ("messages", .array [.object [("role", .string "user"), ("content", .string promptPlaceholder)]]),
      ("temperature", .number (.float (Binary64.ofDecimal false 7 (-1))))]
  | ollama => .object [
      ("model", .string ollama.model),
      ("prompt", .string promptPlaceholder),
      ("stream", .bool false)]

/-- the template of the request body -/
def payload (p : Preset) : String := p.body.renderPretty

/-- only the hosted endpoint takes a key -/
def headers : Preset → List HeaderTemplate
  | openai => [⟨"Authorization", "Bearer \x7b$apiKey\x7d"⟩, ⟨"Content-Type", "application/json"⟩]
  | ollama => [⟨"Content-Type", "application/json"⟩]

end Preset

end CommentDigest
