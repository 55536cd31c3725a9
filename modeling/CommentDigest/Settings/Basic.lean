/-
The settings of a run.

- `Settings`, `Settings.ofPreset`
- `Settings.logPath`: the log file inside the log directory
- `Settings.redacted`: secrets masked
-/
import CommentDigest.Preset
import CommentDigest.Batch
import CommentDigest.Files.Name

namespace CommentDigest

/-- the settings of a run -/
structure Settings where
  /-- endpoint that takes the request -/
  apiUrl : String
  /-- secret that header values may refer to -/
  apiKey : String
  /-- template of the prompt -/
  prompt : String
  /-- template of the request body; JSON once it is filled in -/
  payload : String
  headers : List HeaderTemplate
  /-- JSON object of output names and paths -/
  mapping : String
  /-- most records to send on; zero or less means all -/
  maxComments : Int64
  /-- where the endpoint's answer holds the text -/
  responsePath : String
  /-- template of the listing's URL -/
  commentsUrl : String
  /-- where a listing holds its records -/
  recordsPath : String
  /-- cookie sent along for the listing -/
  cookie : Option String
  logDir : Option String
  logFile : String
  logLevel : String
  timeoutSecs : UInt64
  /-- attempts for one request -/
  maxRetries : UInt32
  deriving DecidableEq, Repr

namespace Settings

def defaultPrompt : String :=
  "Please review this user's Reddit comments and provide a summary of their behavior: \x7b$commentJsonData\x7d"

def defaultMapping : String :=
  "\x7b\n  \"c\": \"data.body\",\n  \"subr\": \"data.subreddit\",\n  \"upvotes\": \"data.ups\",\n" ++
    "  \"threadtitle\": \"data.link_title\",\n  \"issubmitter\": \"data.is_submitter\"\n\x7d"

def defaultCommentsUrl : String := "https://www.reddit.com/user/\x7b$username\x7d.json"

def defaultLogFile : String := "peekaboo.log"

/-- the settings of a preset -/
def ofPreset (p : Preset) : Settings where
  apiUrl := p.apiUrl
  apiKey := ""
  prompt := defaultPrompt
  payload := p.payload
  headers := p.headers
  mapping := defaultMapping
  maxComments := -1
  responsePath := p.responsePath
  commentsUrl := defaultCommentsUrl
  recordsPath := Batch.defaultPath
  cookie := none
  logDir := none
  logFile := defaultLogFile
  logLevel := "info"
  timeoutSecs := 300
  maxRetries := 3

instance : Inhabited Settings := ⟨ofPreset default⟩

/-- the log file, when there is a log directory -/
def logPath (s : Settings) : Option String := s.logDir.map fun dir => Files.join dir s.logFile

/-- what a secret is shown as -/
def mask : String := "********"

/-- the settings with their secrets masked; an empty key is no secret -/
def redacted (s : Settings) : Settings :=
  { s with
    apiKey := if s.apiKey = "" then s.apiKey else mask
    cookie := s.cookie.map fun _ => mask }

end Settings

end CommentDigest
