/-
URLs.

- `Url.parse`: an absolute URL. Blanks around it and line breaks in it count for nothing; single and double dots in the
  path are resolved; characters that cannot stand where they are get encoded. It is given the ASCII forms of international
  domains
- `Url.text`: how a URL is written
- `Url.target`: path and query, as a server is asked for them
-/
import CommentDigest.Http.Host

namespace CommentDigest.Http

structure Url where
  scheme : String
  username : String
  password : Option String
  /-- none when there is no `//` behind the scheme; an empty one is `some` of an empty domain -/
  host : Option Host
  port : Option Nat
  path : String
  query : Option String
  fragment : Option String
  deriving DecidableEq, Repr

/-- the schemes for the web and their ports -/
def webSchemes : List (String × Nat) := [("http", 80), ("https", 443), ("ws", 80), ("wss", 443), ("ftp", 21)]

def isWebScheme (s : String) : Bool := webSchemes.any fun w => w.1 == s

def defaultPort? (s : String) : Option Nat := (webSchemes.find? fun w => w.1 == s).map (·.2)

namespace Url

/-! ## Paths -/

def isSlash (web : Bool) (c : Char) : Bool := c == '/' || (web && c == '\\')

/-- `.`, plain or encoded -/
def isSingleDot (seg : List Char) : Bool :=
  seg == ['.'] || seg.map Char.toLower == ['%', '2', 'e']

/-- `..`, plain or encoded -/
def isDoubleDot (seg : List Char) : Bool :=
  match seg with
  | '.' :: r => isSingleDot r
  | '%' :: a :: b :: r => isSingleDot ['%', a, b] && isSingleDot r
  | _ => false

/-- a letter with a colon or a bar, which two dots do not take away -/
def isDrive (seg : List Char) : Bool :=
  match seg with
  | [c, d] => c.isAlpha && (d == ':' || d == '|')
  | _ => false

/-- the segments without the last one -/
def shorten : List (List Char) → List (List Char)
  | s :: done => if isDrive s then s :: done else done
  | [] => []

/-- a segment with a slash behind it; `done` are those before it, last one first -/
def close (done : List (List Char)) (seg : List Char) : List (List Char) :=
  if isDoubleDot seg then shorten done else if isSingleDot seg then done else seg :: done

/-- a path whose last segment has no slash behind it -/
def pathText (done : List (List Char)) (seg : List Char) : List Char :=
  let (done, seg) := if isDoubleDot seg then (shorten done, []) else if isSingleDot seg then (done, []) else (done, seg)
  '/' :: (done.reverse.flatMap fun s => s ++ ['/']) ++ seg

/-- a path from behind its first slash, and the text behind it; `seg` is the segment begun, last character first -/
def walkPath (web : Bool) : (done : List (List Char)) → (seg : List Char) → List Char → List Char × List Char
  | done, seg, [] => (pathText done seg.reverse, [])
  | done, seg, c :: r =>
    if isSlash web c then walkPath web (close done seg.reverse) [] r
    else if c = '?' ∨ c = '#' then (pathText done seg.reverse, c :: r)
    else walkPath web done ((percentChar pathSet c).reverse ++ seg) r

/-- the path behind a host -/
def pathFrom (web : Bool) (cs : List Char) : List Char × List Char :=
  match cs with
  | [] => if web then (['/'], []) else ([], [])
  | c :: r =>
    if c = '/' ∨ (web ∧ c = '\\') then walkPath web [] [] r
    else if !web ∧ (c = '?' ∨ c = '#') then ([], c :: r)
    else walkPath web [] [] (c :: r)

/-- a URL with its query and fragment -/
def withTail (u : Url) (cs : List Char) : Url :=
  let set := if isWebScheme u.scheme || u.scheme == "file" then webQuerySet else querySet
  let (query, rest) := match cs with
    | '?' :: r => (some (String.ofList (percentEncode set (r.takeWhile (· != '#')))), r.dropWhile (· != '#'))
    | r => (none, r)
  let fragment := match rest with
    | '#' :: r => some (String.ofList (percentEncode fragmentSet r))
    | _ => none
  { u with query := query, fragment := fragment }

/-! ## Behind two slashes -/

/-- the user's name and password in front of the last `@`, and the text behind it -/
def takeUser (web : Bool) (cs : List Char) : Except UrlFault (String × Option String × List Char) :=
  let authority := cs.takeWhile fun c => !(isSlash web c || c == '?' || c == '#')
  if !authority.contains '@' then .ok ("", none, cs)
  else
    let after := (authority.reverse.takeWhile (· != '@')).length
    let user := authority.take (authority.length - after - 1)
    let rest := cs.drop (authority.length - after)
    if user = [] then if after = 0 ∧ rest ≠ [] then .error .emptyHost else .ok ("", none, rest)
    else
      let name := user.takeWhile (· != ':')
      let word := (user.dropWhile (· != ':')).drop 1
      let encode := fun (s : List Char) => String.ofList (percentEncode userSet s)
      .ok (encode name, if word = [] then none else some (encode word), rest)

/-- the characters of a host: up to a colon outside of brackets, a slash, `?` or `#` -/
def hostLength (web : Bool) : (inside : Bool) → List Char → Nat
  | _, [] => 0
  | inside, c :: r =>
    if (c = ':' ∧ !inside) ∨ isSlash web c ∨ c = '?' ∨ c = '#' then 0
    else hostLength web (if c = '[' then true else if c = ']' then false else inside) r + 1

/-- the number behind a colon; the scheme's own one is left out -/
def takePort (scheme : String) (cs : List Char) : Except UrlFault (Option Nat × List Char) :=
  let ds := cs.takeWhile Char.isDigit
  let rest := cs.dropWhile Char.isDigit
  let atEnd := match rest with
    | [] => true
    | c :: _ => isSlash true c || c == '?' || c == '#'
  if 65535 < Digits.value ds ∨ !atEnd then .error .badPort
  else if ds = [] ∨ defaultPort? scheme = some (Digits.value ds) then .ok (none, rest)
  else .ok (some (Digits.value ds), rest)

/-- user, host, port, path and all behind it -/
def behindSlashes (ascii? : List Char → Option (List Char)) (scheme : String) (cs : List Char) : Except UrlFault Url := do
  let web := isWebScheme scheme
  let (username, password, cs) ← takeUser web cs
  let name := cs.take (hostLength web false cs)
  let rest := cs.drop name.length
  if web ∧ name = [] then throw .emptyHost
  let host ← if web then Host.parse ascii? name else Host.parseOpaque name
  if name = [] ∧ rest.head? = some ':' then throw .emptyHost
  let (port, rest) ← match rest with
    | ':' :: r => takePort scheme r
    | r => pure (none, r)
  if name = [] ∧ (username ≠ "" ∨ password.isSome) then throw .emptyHost
  let (path, rest) := pathFrom web rest
  return withTail ⟨scheme, username, password, some host, port, String.ofList path, none, none⟩ rest

/-! ## Reading -/

/-- the scheme in lower case, and the text behind its colon -/
def takeScheme (cs : List Char) : Option (String × List Char) :=
  let name := cs.takeWhile fun c => c.isAlphanum || c == '+' || c == '-' || c == '.'
  match name, cs.drop name.length with
  | c :: _, ':' :: r => if c.isAlpha then some (String.ofList (name.map Char.toLower), r) else none
  | _, _ => none

/-- a URL of files: the host may be missing, and so may the slashes -/
def fileUrl (ascii? : List Char → Option (List Char)) (cs : List Char) : Except UrlFault Url := do
  let make := fun (host : Host) (rest : List Char) =>
    let (path, rest) := pathFrom true rest
    withTail ⟨"file", "", none, some host, none, String.ofList path, none, none⟩ rest
  match cs with
  | a :: b :: r =>
    if isSlash true a ∧ isSlash true b then
      let name := r.takeWhile fun c => !(isSlash true c || c == '?' || c == '#')
      if name = [] ∨ isDrive name then return make (.domain "") r
      let host ← Host.parse ascii? name
      return make (if host = .domain "localhost" then .domain "" else host) (r.drop name.length)
    else return make (.domain "") cs
  | cs => return make (.domain "") cs

/-- a URL without a host -/
def hostlessUrl (scheme : String) (cs : List Char) : Url :=
  match cs with
  | '/' :: r =>
    let (path, rest) := walkPath false [] [] r
    withTail ⟨scheme, "", none, none, none, String.ofList path, none, none⟩ rest
  | cs =>
    let path := cs.takeWhile fun c => !(c == '?' || c == '#')
    withTail ⟨scheme, "", none, none, none, String.ofList (percentEncode isControl path), none, none⟩
      (cs.drop path.length)

/-- blanks and controls at both ends dropped, tabs and line breaks everywhere -/
def clean (cs : List Char) : List Char :=
  let isEdge := fun (c : Char) => decide (c.toNat ≤ 32)
  (((cs.dropWhile isEdge).reverse.dropWhile isEdge).reverse).filter fun c => !(c == '\t' || c == '\n' || c == '\r')

/-- an absolute URL -/
def parse (ascii? : List Char → Option (List Char)) (s : String) : Except UrlFault Url :=
  match takeScheme (clean s.toList) with
  | none => .error .noScheme
  | some (scheme, r) =>
    if scheme = "file" then fileUrl ascii? r
    else if isWebScheme scheme then behindSlashes ascii? scheme (r.dropWhile (isSlash true))
    else
      match r with
      | '/' :: '/' :: r => behindSlashes ascii? scheme r
      | r => .ok (hostlessUrl scheme r)

/-! ## Writing -/

/-- is there a host with a name -/
def hasHost (u : Url) : Bool :=
  match u.host with
  | none => false
  | some h => h != .domain ""

/-- user and password in front of the host -/
def userText (u : Url) : String :=
  match u.password with
  | some p => u.username ++ ":" ++ p ++ "@"
  | none => if u.username = "" then "" else u.username ++ "@"

/-- scheme, user, host and port -/
def origin (u : Url) : String :=
  u.scheme ++ ":" ++
    match u.host with
    | none => if u.path.toList.take 2 = ['/', '/'] then "/." else ""
    | some h =>
      "//" ++ u.userText ++ h.text ++
        match u.port with
        | some n => ":" ++ toString n
        | none => ""

/-- path and query -/
def target (u : Url) : String :=
  u.path ++
    match u.query with
    | some q => "?" ++ q
    | none => ""

/-- how a URL is written -/
def text (u : Url) : String :=
  u.origin ++ u.target ++
    match u.fragment with
    | some f => "#" ++ f
    | none => ""

/-- the URL without user and password -/
def withoutUser (u : Url) : Url := { u with username := "", password := none }

end Url

end CommentDigest.Http
