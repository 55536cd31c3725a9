/-
One request over HTTP.

- `WireRequest.ofCall`: the request for a call, if one can be made
- `Library`: what is not worked out here and has to be given
- `Reply.delivery`: what a reply comes to
- `Wire.over`: requests sent one by one over anything that replies to them
-/
import CommentDigest.Http.Charset
import CommentDigest.Http.Client
import CommentDigest.Http.Url

namespace CommentDigest.Http

/-! ## Requests -/

/-- a request as it is sent; its URL holds no user -/
structure WireRequest where
  method : Method
  url : Url
  headers : List (String × String)
  body : String
  deriving DecidableEq, Repr

/-- why no request can be made -/
inductive BuildFault where
  | url (f : UrlFault)
  | scheme (u : Url)
  | headerName
  | headerValue
  deriving DecidableEq, Repr

/-- the words for a fault -/
def BuildFault.message : BuildFault → String
  | url f => "builder error: " ++ f.message
  | scheme u => "builder error for url (" ++ u.text ++ "): URL scheme is not allowed"
  | headerName => "builder error: invalid HTTP header name"
  | headerValue => "builder error: failed to parse header value"

/-- how the program calls itself -/
def userAgent : String := "peekaboo/0.1.0"

/-- a header at the end, unless there is one with its name -/
def withDefault (hs : List (String × String)) (name value : String) : List (String × String) :=
  if hasHeader hs name then hs else hs ++ [(name, value)]

namespace WireRequest

/-- the first header that cannot be sent -/
def headerFault? : List (String × String) → Option BuildFault
  | [] => none
  | h :: hs =>
    if !isHeaderName h.1 then some .headerName
    else if !isHeaderValue h.2 then some .headerValue
    else headerFault? hs

/-- user and password of a URL as a header -/
def userHeaders (u : Url) : List (String × String) :=
  let plain := fun (s : String) => (ofUtf8? (percentDecode s.toList)).map String.ofList
  match plain u.username with
  | none => []
  | some name =>
    let password := u.password.bind plain
    if name = "" ∧ password = none then [] else [("Authorization", basicCredentials name password)]

/-- the request for a call; `ascii?` has the ASCII forms of international domains -/
def ofCall (ascii? : List Char → Option (List Char)) (c : Call) : Except BuildFault WireRequest :=
  match Url.parse ascii? c.url with
  | .error f => .error (.url f)
  | .ok u =>
    if !u.hasHost then .error (.scheme u)
    else
      match headerFault? c.headers with
      | some f => .error f
      | none =>
        if u.scheme ≠ "http" ∧ u.scheme ≠ "https" then .error (.scheme u.withoutUser)
        else
          let given := userHeaders u ++ c.headers
          let typed := if c.body.isSome then withDefault given "content-type" "application/json" else given
          .ok {
            method := c.method
            url := u.withoutUser
            headers := withDefault typed "user-agent" userAgent
            body := (c.body.map Json.render).getD "" }

/-- headers that belong to the connection and not to the request -/
def connectionHeaders : List String := ["host", "content-length", "accept", "connection"]

/-- the request's own headers with names in lower case, by name -/
def listedHeaders (r : WireRequest) : List (String × String) :=
  ((r.headers.map fun h => (lowerName h.1, h.2)).filter fun h => !connectionHeaders.contains h.1).mergeSort
    fun a b => a.1 ≤ b.1

end WireRequest

/-! ## Replies -/

/-- what comes back -/
inductive Reply where
  /-- an answer, and how many bytes its body is short of what was announced -/
  | answer (status : Nat) (headers : List (String × String)) (body : List UInt8) (missing : Nat)
  /-- the connection was closed -/
  | dropped
  /-- there was no connection -/
  | unreachable (message : String)
  deriving DecidableEq, Repr

/-- what is not worked out here: tables of characters, and the way behind an answer that sends a request elsewhere -/
structure Library (m : Type → Type) where
  /-- the ASCII form of an international domain -/
  ascii? : List Char → Option (List Char)
  /-- how bytes are read under the name of a charset that `Charset` lacks -/
  charset? : String → Option (List UInt8 → List Char)
  /-- what comes of a request whose answer names another address to go to, if it is followed there -/
  follow? : WireRequest → Reply → Option (m Delivery)

/-- a library without any: all domains are ASCII, other charsets have no name, and no answer is followed -/
def Library.plain (m : Type → Type) : Library m := ⟨fun _ => none, fun _ => none, fun _ _ => none⟩

namespace Reply

/-- a request that got no answer -/
def unanswered (u : Url) (reason : String) : Delivery :=
  .unanswered ("error sending request for url (" ++ u.text ++ "): " ++ reason)

/-- the words for a connection that ended in front of an answer -/
def closed : String := "connection closed before message completed"

/-- the words for a connection that ended inside a body -/
def short : String :=
  "request or response body error: error reading a body from connection: end of file before message length reached"

/-- what a reply to a request for a URL comes to -/
def delivery (charset? : String → Option (List UInt8 → List Char)) (u : Url) : Reply → Delivery
  | .dropped => unanswered u closed
  | .unreachable m => unanswered u ("error trying to connect: " ++ m)
  | .answer status headers body missing =>
    if isPreliminary status then unanswered u closed
    else if isBodiless status then .whole status ""
    else if 0 < missing then .cut status short
    else .whole status (bodyText charset? (header? headers "content-type") body)

end Reply

section

variable {m : Type → Type} [Monad m]

/-- requests sent over anything that replies to them -/
def Wire.over (l : Library m) (exchange : WireRequest → m Reply) (pause : Nat → m Unit) : Wire m where
  send c :=
    match WireRequest.ofCall l.ascii? c with
    | .error f => return .unbuilt f.message
    | .ok r => do
      let reply ← exchange r
      (l.follow? r reply).getD (return reply.delivery l.charset? r.url)
  pause := pause

end

end CommentDigest.Http
