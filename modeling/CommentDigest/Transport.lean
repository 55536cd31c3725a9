/-
Calls to servers.

A `Transport` answers a call with JSON or an error. The session logic is written for any transport in any monad.

- `Call`, `Transport`
- `Script`: a transport that takes its answers from a list and remembers the calls
-/
import CommentDigest.Request

namespace CommentDigest

/-- what a call does -/
inductive Method where
  | get
  | post
  deriving DecidableEq, Repr

/-- the word for a method on the wire -/
def Method.text : Method → String
  | get => "GET"
  | post => "POST"

/-- one call -/
structure Call where
  method : Method
  url : String
  headers : Headers
  body : Option Json
  deriving DecidableEq, Repr

/-- what answers calls -/
abbrev Transport (m : Type → Type) := Call → ExceptT DigestError m Json

/-- an answer laid down beforehand: a JSON text or an error -/
inductive Answer where
  | text (s : String)
  | failure (e : DigestError)
  deriving DecidableEq, Repr

/-- the answers not yet given and the calls made so far, first call first -/
structure Script where
  answers : List Answer
  calls : List Call
  deriving DecidableEq, Repr

namespace Script

/-- what an answer comes to -/
def Answer.result : Answer → Except DigestError Json
  | .text s =>
    match Json.parse s with
    | .ok v => .ok v
    | .error e => .error (.json e)
  | .failure e => .error e

/-- the answer to a call when none is left -/
def exhausted : DigestError := .network "script exhausted"

/-- each call takes the next answer -/
def transport : Transport (StateM Script) := fun call => ExceptT.mk fun s =>
  match s.answers with
  | [] => (.error exhausted, ⟨[], s.calls ++ [call]⟩)
  | a :: as => (Answer.result a, ⟨as, s.calls ++ [call]⟩)

end Script

end CommentDigest
