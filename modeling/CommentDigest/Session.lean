/-
Sessions: fetch a listing, take the records out, build the request, send it, read the answer.

- `checkUsername`, `listingUrl`, `fetchListing`
- `Summarizer`: settings with their field mapping read once
- `Summarizer.prepare`: everything up to the request; it makes no call
- `Summarizer.summarizeListing`: `prepare`, one call, and the answer read
- `Summarizer.summarize`: the listing fetched first
- `Step`, `Summarizer.run`: a list of such actions one after another
-/
import CommentDigest.Transport

namespace CommentDigest

/-! ## The listing -/

/-- a Latin letter without marks, a digit, an underscore or a hyphen -/
def isUsernameChar (c : Char) : Bool := c.isAlphanum || c == '_' || c == '-'

/-- fails on what cannot be an account name -/
def checkUsername (username : String) : Except DigestError Unit :=
  if username = "" then .error (.invalidInput "Username cannot be empty")
  else if username.toList.all isUsernameChar then .ok ()
  else
    .error (.invalidInput
      ("Invalid username '" ++ username ++ "': only letters, digits, '_' and '-' are allowed"))

/-- the URL of an account's listing -/
def listingUrl (template username : String) : Except DigestError String := do
  checkUsername username
  return Template.fill template (.single "username" username) .empty

/-- the call for an account's listing -/
def listingCall (template : String) (cookie : Option String) (username : String) : Except DigestError Call := do
  let url ← listingUrl template username
  return ⟨.get, url, cookie.toList.map fun c => ("Cookie", c), none⟩

/-- an account's listing -/
def fetchListing {m : Type → Type} [Monad m] (transport : Transport m) (template : String) (cookie : Option String)
    (username : String) : ExceptT DigestError m Json := do
  let call ← ExceptT.mk (pure (listingCall template cookie username))
  transport call

/-! ## Results -/

/-- the records and the request built from them -/
structure Prepared where
  username : String
  batch : Batch
  request : Request
  deriving DecidableEq, Repr

def Prepared.toJson (p : Prepared) : Json :=
  .object [("username", .string p.username), ("comments", p.batch.toJson), ("request", p.request.toJson)]

/-- what came out of a request -/
structure Summary where
  username : String
  text : Option String
  rawResponse : Json
  processed : Nat
  endpoint : String
  deriving DecidableEq, Repr

/-- a summary with the time it was made at -/
def Summary.toJson (s : Summary) (createdAt : String) : Json :=
  .object [
    ("username", .string s.username),
    ("text", match s.text with
      | none => .null
      | some t => .string t),
    ("raw_response", s.rawResponse),
    ("processed_comments", .number (.int s.processed)),
    ("model_endpoint", .string s.endpoint),
    ("created_at", .string createdAt)]

/-- the error that an answer reports in its `error` member, unless that is null -/
def reportedError? (answer : Json) : Option String :=
  match answer.member? "error" with
  | none => none
  | some .null => none
  | some (.string s) => some s
  | some e =>
    match (e.member? "message").bind Json.asString? with
    | some s => some s
    | none => some e.render

/-! ## The summarizer -/

/-- settings with their field mapping -/
structure Summarizer where
  settings : Settings
  mapping : FieldMapping

namespace Summarizer

def ofSettings (s : Settings) : Except DigestError Summarizer :=
  match FieldMapping.parse s.mapping with
  | .ok mapping => .ok ⟨s, mapping⟩
  | .error flaw => .error (.config ("Invalid comment mapper: " ++ flaw.message))

/-- the records of a listing -/
def mapListing (d : Summarizer) (listing : Json) : Batch :=
  Batch.collect listing d.settings.recordsPath d.mapping d.settings.maxComments

/-- everything up to the request -/
def prepare (d : Summarizer) (username : String) (listing : Json) : Except DigestError Prepared := do
  checkUsername username
  let batch := d.mapListing listing
  if batch.processed = 0 then
    throw (.notFound ("No comments found for " ++ username ++ " at '" ++ d.settings.recordsPath ++ "'"))
  let request ← Request.ofSettings d.settings batch.records username
  return ⟨username, batch, request⟩

/-- the call that sends a request -/
def sendCall (r : Request) : Call := ⟨.post, r.url, r.headers, some r.body⟩

/-- the answer to a prepared request, read -/
def readAnswer (d : Summarizer) (p : Prepared) (answer : Json) : Except DigestError Summary :=
  match reportedError? answer with
  | some m => .error (.endpoint m)
  | none =>
    .ok {
      username := p.username
      text := responseText answer d.settings.responsePath
      rawResponse := answer
      processed := p.batch.processed
      endpoint := p.request.url }

section

variable {m : Type → Type} [Monad m]

def fetch (d : Summarizer) (transport : Transport m) (username : String) : ExceptT DigestError m Json :=
  fetchListing transport d.settings.commentsUrl d.settings.cookie username

/-- a listing that is at hand, summarized -/
def summarizeListing (d : Summarizer) (transport : Transport m) (username : String) (listing : Json) :
    ExceptT DigestError m Summary := do
  let prepared ← ExceptT.mk (pure (d.prepare username listing))
  let answer ← transport (sendCall prepared.request)
  ExceptT.mk (pure (d.readAnswer prepared answer))

/-- an account summarized -/
def summarize (d : Summarizer) (transport : Transport m) (username : String) : ExceptT DigestError m Summary := do
  let listing ← d.fetch transport username
  d.summarizeListing transport username listing

end

end Summarizer

/-! ## Runs -/

/-- one action of a session; documents are given as text -/
inductive Step where
  | fetch (username : String)
  | map (document : String)
  | prepare (username document : String)
  | summarize (username : String)
  | summarizeListing (username document : String)
  deriving DecidableEq, Repr

/-- what an action gives -/
inductive Outcome where
  | listing (v : Json)
  | batch (b : Batch)
  | prepared (p : Prepared)
  | summary (s : Summary)
  deriving DecidableEq, Repr

/-- a document as a value -/
def readDocument (text : String) : Except DigestError Json :=
  match Json.parse text with
  | .ok v => .ok v
  | .error e => .error (.json e)

namespace Summarizer

variable {m : Type → Type} [Monad m]

/-- one action -/
def perform (d : Summarizer) (transport : Transport m) : Step → ExceptT DigestError m Outcome
  | .fetch username => do return .listing (← d.fetch transport username)
  | .map document => do
    let listing ← ExceptT.mk (pure (readDocument document))
    return .batch (d.mapListing listing)
  | .prepare username document => do
    let listing ← ExceptT.mk (pure (readDocument document))
    return .prepared (← ExceptT.mk (pure (d.prepare username listing)))
  | .summarize username => do return .summary (← d.summarize transport username)
  | .summarizeListing username document => do
    let listing ← ExceptT.mk (pure (readDocument document))
    return .summary (← d.summarizeListing transport username listing)

/-- actions one after another; an error is that action's result, and the session goes on -/
def run (d : Summarizer) (transport : Transport m) (steps : List Step) : m (List (Except DigestError Outcome)) :=
  steps.mapM fun s => (d.perform transport s).run

/-- a session against a script: each action's result with the calls it made -/
def rehearse (d : Summarizer) : List Step → List Answer → List (Except DigestError Outcome × List Call)
  | [], _ => []
  | s :: steps, answers =>
    let (result, script) := (d.perform Script.transport s).run.run ⟨answers, []⟩
    (result, script.calls) :: d.rehearse steps script.answers

end Summarizer

end CommentDigest
