/-
Which settings can be used.

`Settings.flaw?` is the first thing wrong with settings, in a fixed order; `Settings.check` fails with it.
-/
import CommentDigest.Error
import CommentDigest.Settings.Basic
import CommentDigest.Text.Blank
import CommentDigest.Text.Replace

namespace CommentDigest.Settings

/-- what can be wrong with settings -/
inductive Flaw where
  | noApiUrl
  | apiScheme
  | commentsScheme
  | emptyPayload
  | mappingNotJson (e : Json.ReadError)
  | mappingNotPaths
  | emptyHeaderName
  | logFileNotPlain
  | zeroTimeout
  | zeroRetries
  | manyRetries (n : UInt32)
  deriving DecidableEq, Repr

/-- the largest number of attempts -/
def retryLimit : UInt32 := 10

/-- the words for a flaw -/
def Flaw.message : Flaw → String
  | noApiUrl => "API URL is missing"
  | apiScheme => "API URL must start with http:// or https://"
  | commentsScheme => "Comments URL must start with http:// or https://"
  | emptyPayload => "Payload template cannot be empty"
  | mappingNotJson e => "Invalid JSON for comment mapper: " ++ e.message
  | mappingNotPaths => "Comment mapper must be a JSON object of path strings"
  | emptyHeaderName => "Request header names cannot be empty"
  | logFileNotPlain => "Log file must be a plain file name"
  | zeroTimeout => "Request timeout cannot be 0"
  | zeroRetries => "Max retries cannot be 0"
  | manyRetries n => "Max retries cannot exceed " ++ toString retryLimit.toNat ++ " (got " ++ toString n.toNat ++ ")"

def httpScheme : List Char := ['h', 't', 't', 'p', ':', '/', '/']

def httpsScheme : List Char := ['h', 't', 't', 'p', 's', ':', '/', '/']

/-- does a text start like a web address -/
def isHttpUrl (s : String) : Bool := startsWith httpScheme s.toList || startsWith httpsScheme s.toList

/-- what is wrong with the text of a field mapping -/
def mappingFlaw? (text : String) : Option Flaw :=
  match Json.parse text with
  | .error e => some (.mappingNotJson e)
  | .ok (.object ms) => if ms.all fun m => m.2.isString then none else some .mappingNotPaths
  | .ok _ => some .mappingNotPaths

/-- a file name with a separator in it names a place in another directory -/
def isPlainFileName (s : String) : Bool :=
  !isBlankText s && !(s.toList.any fun c => c == '/' || c == '\\')

/-- the first flaw of settings -/
def flaw? (s : Settings) : Option Flaw :=
  if isBlankText s.apiUrl then some .noApiUrl
  else if !isHttpUrl s.apiUrl then some .apiScheme
  else if !isHttpUrl s.commentsUrl then some .commentsScheme
  else if isBlankText s.payload then some .emptyPayload
  else if let some flaw := mappingFlaw? s.mapping then some flaw
  else if s.headers.any fun h => isBlankText h.name then some .emptyHeaderName
  else if !isPlainFileName s.logFile then some .logFileNotPlain
  else if s.timeoutSecs = 0 then some .zeroTimeout
  else if s.maxRetries = 0 then some .zeroRetries
  else if retryLimit < s.maxRetries then some (.manyRetries s.maxRetries)
  else none

/-- fails on settings with a flaw -/
def check (s : Settings) : Except DigestError Unit :=
  match s.flaw? with
  | some flaw => .error (.config flaw.message)
  | none => .ok ()

end CommentDigest.Settings
