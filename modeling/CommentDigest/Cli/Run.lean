/-
What the program does.

- `Surroundings`: all that it asks of the world
- `Invocation.run`: the text it prints, or an error
- `start`: from the words of a command line to the end
-/
import CommentDigest.Cli.Invocation
import CommentDigest.Environment.Search
import CommentDigest.Http.Client
import CommentDigest.Logging.Setup
import CommentDigest.Session
import CommentDigest.Settings.Load

namespace CommentDigest.Cli

/-- all that the program asks of the world -/
structure Surroundings (m : Type → Type) where
  files : FileSystem m
  wire : Http.Wire m
  /-- the time, as text -/
  now : m String

variable {m : Type → Type} [Monad m]

/-! ## Logging -/

namespace Invocation

/-- the level without settings -/
def quietLevel : LogLevel := .warn

/-- the option, then the settings; an unknown name counts as a level too -/
def logLevel (i : Invocation) (settings? : Option Settings) : LogLevel :=
  match i.logLevel? <|> settings?.map (·.logLevel) with
  | some name => .ofName name
  | none => quietLevel

/-- the file is named by the settings, and so is its directory unless the option says it -/
def logFile? (i : Invocation) (settings? : Option Settings) : Option String :=
  match i.logDir? with
  | some dir => some (Files.join dir ((settings?.map (·.logFile)).getD Settings.defaultLogFile))
  | none => settings?.bind Settings.logPath

/-- the log of the process -/
def setUpLog (w : Surroundings m) (env : Environment) (i : Invocation) (settings? : Option Settings) :
    ExceptT DigestError m Unit :=
  Logging.setUp w.files env false (i.logFile? settings?) (i.logLevel settings?).name

end Invocation

/-! ## Commands -/

/-- a value as it is printed -/
def printed (v : Json) : String := v.renderPretty ++ "\n"

/-- a name and a value -/
def readAssignment (s : String) : Except DigestError (String × String) :=
  match splitEquals s.toList with
  | (name, some value) => .ok (name, value)
  | (_, none) => .error (.invalidInput ("Expected KEY=VALUE, got '" ++ s ++ "'"))

/-- the values that a template is filled with -/
def GivenValues.read : GivenValues → Except DigestError Template.Values
  | named assignments => do return .ofPairs (← assignments.mapM readAssignment)
  | positional values => .ok (.positional values)

/-- a template filled in -/
def renderText (template : String) (values : GivenValues) (fallback : Template.Fallback) :
    Except DigestError String := do
  return Template.fill template (← values.read) fallback ++ "\n"

/-- the document in a file -/
def readListing (files : FileSystem m) (name : String) : ExceptT DigestError m Json := do
  match ← ExceptT.lift (files.read name) with
  | .ok text => ExceptT.mk (pure (readDocument text))
  | .error e => throw (.notFound ("Failed to read " ++ name ++ ": " ++ e.message))

/-- settings with the limit that was asked for -/
def withLimit (s : Settings) (limit? : Option Int64) : Settings :=
  { s with maxComments := limit?.getD s.maxComments }

/-- calls as the settings want them -/
def Surroundings.transport (w : Surroundings m) (s : Settings) : Transport m := w.wire.transport s.maxRetries

/-- the listing that a source stands for -/
def listing (w : Surroundings m) (d : Summarizer) : ListingSource → ExceptT DigestError m Json
  | .file name => readListing w.files name
  | .account name => d.fetch (w.transport d.settings) name

/-- the text of a summary, or the whole answer when it holds none -/
def summaryText (s : Summary) : String :=
  match s.text with
  | some text => text ++ "\n"
  | none => printed s.rawResponse

/-- a summary of what a source lists -/
def summarize (w : Surroundings m) (d : Summarizer) (username : String) (source : ListingSource) (form : SummaryForm) :
    ExceptT DigestError m String := do
  let v ← listing w d source
  match form with
  | .request =>
    let p ← ExceptT.mk (pure (d.prepare username v))
    return printed { p with request := p.request.redacted d.settings.apiKey }.toJson
  | .record =>
    let s ← d.summarizeListing (w.transport d.settings) username v
    return printed (s.toJson (← ExceptT.lift w.now))
  | .text => return summaryText (← d.summarizeListing (w.transport d.settings) username v)

/-- the records of what a source lists -/
def mapListing (w : Surroundings m) (d : Summarizer) (source : ListingSource) : ExceptT DigestError m String := do
  return printed (d.mapListing (← listing w d source)).toJson

namespace Invocation

/-- the settings in use, with the log of the process set up as they say -/
def prepare (w : Surroundings m) (env : Environment) (i : Invocation) : ExceptT DigestError m Settings := do
  let s ← Settings.load w.files env i.settingsFile? i.preset
  i.setUpLog w env (some s)
  return s

/-- what is printed -/
def run (w : Surroundings m) (env : Environment) (i : Invocation) : ExceptT DigestError m String := do
  match i.command with
  | .defaults => return printed (Settings.ofPreset i.preset).toJson
  | .render template values fallback =>
    i.setUpLog w env none
    ExceptT.mk (pure (renderText template values fallback))
  | .settings => return printed (← i.prepare w env).redacted.toJson
  | .map source limit? =>
    let d ← ExceptT.mk (pure (Summarizer.ofSettings (withLimit (← i.prepare w env) limit?)))
    mapListing w d source
  | .summarize username source form limit? =>
    let d ← ExceptT.mk (pure (Summarizer.ofSettings (withLimit (← i.prepare w env) limit?)))
    summarize w d username source form

end Invocation

/-! ## The program -/

/-- how a run ends -/
inductive Ending where
  | printed (text : String)
  | failed (e : DigestError)
  | stopped (s : Stop)
  deriving DecidableEq, Repr

namespace Ending

/-- exit status -/
def status : Ending → Nat
  | printed _ => 0
  | failed e => e.exitCode
  | stopped .help => 0
  | stopped .misuse => 2

/-- what a run prints -/
def output : Ending → String
  | printed text => text
  | failed _ => ""
  | stopped _ => ""

/-- what it complains of -/
def complaint? : Ending → Option String
  | printed _ => none
  | failed e => some ("Error: " ++ e.message)
  | stopped _ => none

end Ending

/-- the program on the words of a command line; they are read before the files of variables are -/
def start (w : Surroundings m) (env : Environment) (words : List String) : m Ending := do
  match Invocation.parse env words with
  | .error s => return .stopped s
  | .ok i =>
    let env ← env.withProject w.files
    match ← (i.run w env).run with
    | .ok text => return .printed text
    | .error e => return .failed e

end CommentDigest.Cli
