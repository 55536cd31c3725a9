/-
The request to the endpoint.

- `escapeForLiteral`: a text that can stand inside a JSON string literal of a template
- `fillPrompt`, `fillPayload`, `fillHeaders`: the three templates filled in
- `Request.ofSettings`: all of them
- `Request.redacted`: a secret masked in the header values
- `responseText`: the text in an endpoint's answer
-/
import CommentDigest.Error
import CommentDigest.Settings.Basic
import CommentDigest.Template
import CommentDigest.Text.Blank
import CommentDigest.Text.Replace

namespace CommentDigest

/-! ## Templates filled in -/

/-- backslashes are doubled first, then quotes get one in front -/
def escapeForLiteral (cs : List Char) : List Char :=
  replaceChar '"' ['\\', '"'] (replaceChar '\\' ['\\', '\\'] cs)

/-- the values of a prompt template -/
def promptValues (commentData username : String) : Template.Values :=
  .named fun name =>
    if name = "commentJsonData" then some commentData else if name = "username" then some username else none

/-- the prompt: the records as escaped JSON text, and the account name -/
def fillPrompt (template : String) (records : List Record) (username : String) : String :=
  let data := String.ofList (escapeForLiteral (Batch.recordsJson records).chars)
  Template.fill template (promptValues data username) .empty

/-- the body: the prompt put into its template, read as JSON -/
def fillPayload (template prompt : String) : Except DigestError Json :=
  match Json.parse (Template.fill template (.single "llmPrompt" prompt) .empty) with
  | .ok v => .ok v
  | .error e => .error (.payload ("Error parsing JSON payload: " ++ e.message))

/-- header names and values in order -/
abbrev Headers := List (String × String)

/-- are two names equal but for the case of their Latin letters -/
def sameHeader (a b : String) : Bool := a.toList.map Char.toLower == b.toList.map Char.toLower

/-- the headers: the key put into the values; a repeated name keeps its first place and takes the last value -/
def fillHeaders (headers : List HeaderTemplate) (apiKey : String) : Headers :=
  Assoc.collect sameHeader (headers.map fun h => (h.name, Template.fill h.value (.single "apiKey" apiKey) .empty))

/-! ## Requests -/

/-- a request ready to be sent -/
structure Request where
  url : String
  headers : Headers
  body : Json
  deriving DecidableEq, Repr

namespace Request

/-- the request for some records -/
def ofSettings (s : Settings) (records : List Record) (username : String) : Except DigestError Request :=
  if isBlankText s.apiUrl then .error (.config "API URL is missing")
  else do
    let body ← fillPayload s.payload (fillPrompt s.prompt records username)
    return ⟨s.apiUrl, fillHeaders s.headers s.apiKey, body⟩

/-- every occurrence of the secret in a header value masked; an empty secret is none -/
def redacted (r : Request) (secret : String) : Request :=
  if secret = "" then r
  else
    { r with
      headers := r.headers.map fun h =>
        (h.1, String.ofList (replaceText secret.toList Settings.mask.toList h.2.toList)) }

def headersJson (hs : Headers) : Json := .array (hs.map fun h => .array [.string h.1, .string h.2])

def toJson (r : Request) : Json :=
  .object [("url", .string r.url), ("headers", headersJson r.headers), ("body", r.body)]

end Request

/-! ## Answers -/

/-- the value at a path, the whole answer for an empty path; a string as it is, anything else as compact text -/
def responseText (answer : Json) (path : String) : Option String :=
  let found := if path = "" then some answer else Path.find? answer path
  found.map fun v =>
    match v with
    | .string s => s
    | v => v.render

end CommentDigest
