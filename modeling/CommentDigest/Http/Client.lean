/-
Calls with more than one attempt.

What an HTTP library makes of one request is not decided here: it gives a `Delivery`, and the client goes by that.

- `Delivery`: all that can come of one request
- `Attempt.ofDelivery`: an answer, a failure that may pass, or a failure for good
- `retry`: attempts with growing pauses until one is not a failure that may pass
- `Wire.transport`: a transport over anything that sends requests and waits
-/
import CommentDigest.Http.Status
import CommentDigest.Json.Reader
import CommentDigest.Settings.Check
import CommentDigest.Transport

namespace CommentDigest.Http

/-! ## One request -/

/-- what comes of one request; words are those of the library's error -/
inductive Delivery where
  /-- no request could be made -/
  | unbuilt (words : String)
  /-- a request was made and got no answer -/
  | unanswered (words : String)
  /-- an answer came, and its body could not be read to the end -/
  | cut (status : Nat) (words : String)
  /-- an answer came, and all of its body -/
  | whole (status : Nat) (text : String)
  deriving DecidableEq, Repr

/-- what an attempt comes to -/
inductive Attempt where
  | success (v : Json)
  /-- another attempt may go well -/
  | passing (e : DigestError)
  /-- no other attempt can go well -/
  | final (e : DigestError)
  deriving DecidableEq, Repr

namespace Attempt

/-- characters of a body that a message repeats -/
def excerptLength : Nat := 200

/-- the beginning of a text -/
def excerpt (s : String) : String :=
  let cs := s.toList
  if excerptLength < cs.length then String.ofList (cs.take excerptLength) ++ "..." else s

/-- a whole answer to a call of an address -/
def ofAnswer (address : String) (status : Nat) (text : String) : Attempt :=
  if isSuccess status then
    match Json.parse text with
    | .ok v => .success v
    | .error e => .final (.network ("Failed to parse response from " ++ address ++ ": " ++ e.message))
  else
    let e := DigestError.network (address ++ " returned " ++ statusText status ++ ": " ++ excerpt text)
    if isPassing status then .passing e else .final e

/-- what came of the request for a call of an address; a body that breaks off is judged before the code in front of it -/
def ofDelivery (address : String) : Delivery → Attempt
  | .unbuilt words => .final (.invalidInput ("Invalid request: " ++ words))
  | .unanswered words => .passing (.network ("Failed to send request: " ++ words))
  | .cut _ words => .passing (.network ("Failed to read response body: " ++ words))
  | .whole status text => ofAnswer address status text

end Attempt

/-! ## Attempts -/

/-- the longest pause, in seconds -/
def longestPause : Nat := 30

/-- the pause behind an attempt, the first one being number 1: it doubles from one second on -/
def pauseAfter (number : Nat) : Nat := min longestPause (twoTo (number - 1))

/-- the number of attempts that settings allow -/
def attemptLimit (maxRetries : UInt32) : Nat := max 1 (min Settings.retryLimit.toNat maxRetries.toNat)

/-- the error of a call for which no attempt was allowed -/
def noAttempt : DigestError := .network "All retries failed"

section

variable {m : Type → Type} [Monad m]

/-- the `left` attempts from a number on; behind a failure that may pass comes a pause, unless no attempt is left. The
failure of the attempt before is what remains when there is none -/
def retryFrom (attempt : m Attempt) (pause : Nat → m Unit) :
    (left number : Nat) → (last? : Option DigestError) → m (Except DigestError Json)
  | 0, _, last? => return .error (last?.getD noAttempt)
  | left + 1, number, _ => do
    match ← attempt with
    | .success v => return .ok v
    | .final e => return .error e
    | .passing e =>
      if left ≠ 0 then pause (pauseAfter number)
      retryFrom attempt pause left (number + 1) (some e)

/-- up to so many attempts -/
def retry (attempt : m Attempt) (pause : Nat → m Unit) (limit : Nat) : m (Except DigestError Json) :=
  retryFrom attempt pause limit 1 none

/-- what sends requests and waits -/
structure Wire (m : Type → Type) where
  send : Call → m Delivery
  /-- seconds to wait -/
  pause : Nat → m Unit

/-- one attempt at a call -/
def Wire.attempt (w : Wire m) (c : Call) : m Attempt := return .ofDelivery c.url (← w.send c)

/-- calls over a wire, with as many attempts as settings allow -/
def Wire.transport (w : Wire m) (maxRetries : UInt32) : Transport m := fun c =>
  ExceptT.mk (retry (w.attempt c) w.pause (attemptLimit maxRetries))

end

end CommentDigest.Http
