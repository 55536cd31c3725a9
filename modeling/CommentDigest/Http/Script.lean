/-
A server that follows a script.

It answers at one address. The replies of the script are given one after another; when none is left it closes the
connection. It remembers the requests it got and the pauses that were asked for.
-/
import CommentDigest.Http.Exchange

namespace CommentDigest.Http

/-- the replies not yet given, and what has happened so far, first things first -/
structure ScriptedServer where
  /-- scheme, host and port -/
  address : String
  replies : List Reply
  requests : List WireRequest
  pauses : List Nat
  deriving Repr

namespace ScriptedServer

def start (address : String) (replies : List Reply) : ScriptedServer := ⟨address, replies, [], []⟩

/-- nothing listens at any other address -/
def refusal : String := "tcp connect error: Connection refused (os error 111)"

/-- the reply to a request -/
def reply (s : ScriptedServer) (r : WireRequest) : Reply × ScriptedServer :=
  if r.url.origin ≠ s.address then (.unreachable refusal, s)
  else
    (s.replies.headD .dropped, { s with replies := s.replies.tail, requests := s.requests ++ [r] })

variable {m : Type → Type} [Monad m] [MonadStateOf ScriptedServer m]

/-- the server gets a request -/
def exchange (r : WireRequest) : m Reply := do
  let (reply, s) := (← getThe ScriptedServer).reply r
  set s
  return reply

/-- a pause is remembered -/
def pause (n : Nat) : m Unit := modifyThe ScriptedServer fun s => { s with pauses := s.pauses ++ [n] }

/-- the wire to a server that is a state; its script needs no more than a plain library -/
def wire : Wire m := .over (.plain m) exchange pause

end ScriptedServer

/-- calls one after another: each one's result with the requests and pauses it took -/
def ScriptedServer.rehearse (maxRetries : UInt32) :
    List Call → ScriptedServer → List (Except DigestError Json × List WireRequest × List Nat)
  | [], _ => []
  | c :: cs, s =>
    let act : StateM ScriptedServer (Except DigestError Json) := (ScriptedServer.wire.transport maxRetries c).run
    let (result, s) := act.run { s with requests := [], pauses := [] }
    (result, s.requests, s.pauses) :: rehearse maxRetries cs s

end CommentDigest.Http
