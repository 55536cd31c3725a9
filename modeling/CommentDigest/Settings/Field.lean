/-
The fields of settings, one by one.

A `Field` has a name and a kind, and the kind decides the type of its value; `Settings.get` and `Settings.put` are the
field's view and update. Reading and writing settings goes field by field through these.
-/
import CommentDigest.Settings.Basic

namespace CommentDigest.Settings

/-- the fields in the order in which settings are written -/
inductive Field where
  | apiUrl
  | apiKey
  | prompt
  | payload
  | headers
  | mapping
  | maxComments
  | responsePath
  | commentsUrl
  | recordsPath
  | cookie
  | logDir
  | logFile
  | logLevel
  | timeoutSecs
  | maxRetries
  deriving DecidableEq, Repr, Inhabited

/-- what a field holds -/
inductive Kind where
  | text
  | optionalText
  | optionalPath
  | headers
  | int64
  | uint64
  | uint32
  deriving DecidableEq, Repr

/-- the type of the values of a kind -/
abbrev Kind.Value : Kind → Type
  | text => String
  | optionalText => Option String
  | optionalPath => Option String
  | headers => List HeaderTemplate
  | int64 => Int64
  | uint64 => UInt64
  | uint32 => UInt32

namespace Field

/-- all fields in order -/
def all : List Field :=
  [apiUrl, apiKey, prompt, payload, headers, mapping, maxComments, responsePath, commentsUrl, recordsPath, cookie,
    logDir, logFile, logLevel, timeoutSecs, maxRetries]

/-- the name of a field in a document -/
def name : Field → String
  | apiUrl => "api_url"
  | apiKey => "api_key"
  | prompt => "llm_prompt"
  | payload => "payload_object"
  | headers => "request_headers"
  | mapping => "comment_mapper"
  | maxComments => "max_comments"
  | responsePath => "llm_response_path"
  | commentsUrl => "comments_url"
  | recordsPath => "records_path"
  | cookie => "cookie"
  | logDir => "log_dir"
  | logFile => "log_file"
  | logLevel => "log_level"
  | timeoutSecs => "request_timeout_secs"
  | maxRetries => "max_retries"

/-- the field with a name -/
def ofName? (s : String) : Option Field := all.find? fun f => f.name == s

def kind : Field → Kind
  | headers => .headers
  | maxComments => .int64
  | cookie => .optionalText
  | logDir => .optionalPath
  | timeoutSecs => .uint64
  | maxRetries => .uint32
  | apiUrl | apiKey | prompt | payload | mapping | responsePath | commentsUrl | recordsPath | logFile | logLevel => .text

end Field

/-- the value of a field -/
def get (s : Settings) : (f : Field) → f.kind.Value
  | .apiUrl => s.apiUrl
  | .apiKey => s.apiKey
  | .prompt => s.prompt
  | .payload => s.payload
  | .headers => s.headers
  | .mapping => s.mapping
  | .maxComments => s.maxComments
  | .responsePath => s.responsePath
  | .commentsUrl => s.commentsUrl
  | .recordsPath => s.recordsPath
  | .cookie => s.cookie
  | .logDir => s.logDir
  | .logFile => s.logFile
  | .logLevel => s.logLevel
  | .timeoutSecs => s.timeoutSecs
  | .maxRetries => s.maxRetries

/-- the settings with another value of a field -/
def put (s : Settings) : (f : Field) → f.kind.Value → Settings
  | .apiUrl, v => { s with apiUrl := v }
  | .apiKey, v => { s with apiKey := v }
  | .prompt, v => { s with prompt := v }
  | .payload, v => { s with payload := v }
  | .headers, v => { s with headers := v }
  | .mapping, v => { s with mapping := v }
  | .maxComments, v => { s with maxComments := v }
  | .responsePath, v => { s with responsePath := v }
  | .commentsUrl, v => { s with commentsUrl := v }
  | .recordsPath, v => { s with recordsPath := v }
  | .cookie, v => { s with cookie := v }
  | .logDir, v => { s with logDir := v }
  | .logFile, v => { s with logFile := v }
  | .logLevel, v => { s with logLevel := v }
  | .timeoutSecs, v => { s with timeoutSecs := v }
  | .maxRetries, v => { s with maxRetries := v }

/-- a field holds what was put into it -/
theorem get_put (s : Settings) (f : Field) (v : f.kind.Value) : (s.put f v).get f = v := by
  cases f <;> rfl

/-- a put changes no other field -/
theorem get_put_of_ne (s : Settings) {f g : Field} (h : g ≠ f) (v : f.kind.Value) : (s.put f v).get g = s.get g := by
  cases f <;> cases g <;> first | rfl | exact absurd rfl h

/-- settings with the same fields are the same -/
theorem ext_get {s t : Settings} (h : ∀ f, s.get f = t.get f) : s = t := by
  cases s
  cases t
  simp only [mk.injEq]
  exact ⟨h .apiUrl, h .apiKey, h .prompt, h .payload, h .headers, h .mapping, h .maxComments, h .responsePath,
    h .commentsUrl, h .recordsPath, h .cookie, h .logDir, h .logFile, h .logLevel, h .timeoutSecs, h .maxRetries⟩

end CommentDigest.Settings
