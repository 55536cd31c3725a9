/-
Headers of messages.

- `isHeaderName`, `isHeaderValue`: what can stand in a header
- `basicCredentials`: user and password as the value of a header
- `mediaParameter?`: a parameter behind a media type
-/
import CommentDigest.Text.Utf8

namespace CommentDigest.Http

/-! ## Names and values -/

/-- the characters of names -/
def isTokenChar (c : Char) : Bool :=
  c.isAlphanum || c == '!' || c == '#' || c == '$' || c == '%' || c == '&' || c == '\'' || c == '*' || c == '+' ||
    c == '-' || c == '.' || c == '^' || c == '_' || c.toNat == 96 || c == '|' || c == '~'

def isHeaderName (s : String) : Bool := s != "" && s.toList.all isTokenChar

/-- no controls but the tab -/
def isHeaderValue (s : String) : Bool := s.toList.all fun c => c == '\t' || (32 ≤ c.toNat && c.toNat != 127)

/-- a name in lower case -/
def lowerName (s : String) : String := String.ofList (s.toList.map Char.toLower)

/-- is there a header with a name, in any case -/
def hasHeader (hs : List (String × String)) (name : String) : Bool := hs.any fun h => lowerName h.1 == name

/-- the value of the first header with a name -/
def header? (hs : List (String × String)) (name : String) : Option String :=
  (hs.find? fun h => lowerName h.1 == name).map (·.2)

/-! ## Credentials -/

/-- the characters for six bits -/
def sextetChar (n : Nat) : Char :=
  if n < 26 then Char.ofNat ('A'.toNat + n)
  else if n < 52 then Char.ofNat ('a'.toNat + n - 26)
  else if n < 62 then Char.ofNat ('0'.toNat + n - 52)
  else if n = 62 then '+'
  else '/'

/-- three bytes in four characters, filled up with equals signs -/
def base64 : List UInt8 → List Char
  | a :: b :: c :: r =>
    let n := 65536 * a.toNat + 256 * b.toNat + c.toNat
    sextetChar (n / 262144) :: sextetChar (n / 4096 % 64) :: sextetChar (n / 64 % 64) :: sextetChar (n % 64) :: base64 r
  | [a, b] =>
    let n := 65536 * a.toNat + 256 * b.toNat
    [sextetChar (n / 262144), sextetChar (n / 4096 % 64), sextetChar (n / 64 % 64), '=']
  | [a] =>
    let n := 65536 * a.toNat
    [sextetChar (n / 262144), sextetChar (n / 4096 % 64), '=', '=']
  | [] => []

/-- user and password as the value of a header -/
def basicCredentials (username : String) (password : Option String) : String :=
  "Basic " ++ String.ofList (base64 (utf8Bytes (username ++ ":" ++ password.getD "").toList))

/-! ## Media types -/

/-- the value of a parameter from behind its equals sign, and the text behind it and its semicolon -/
def parameterValue? (cs : List Char) : Option (List Char × List Char) :=
  let isQuotable := fun (c : Char) => decide (31 < c.toNat ∧ c.toNat ≠ 127)
  match cs with
  | '"' :: first :: r =>
    if !isQuotable first then none
    else
      let more := r.takeWhile fun c => c != '"' && isQuotable c
      match r.drop more.length with
      | '"' :: r =>
        match r.dropWhile (· == ' ') with
        | [] => some (first :: more, [])
        | ';' :: r => some (first :: more, r)
        | _ => none
      | _ => none
  | cs =>
    let token := cs.takeWhile isTokenChar
    match cs.drop token.length with
    | [] => some (token, [])
    | ';' :: r => if token = [] then none else some (token, r)
    | _ => none

/-- the parameters behind a media type; `fuel` bounds their number -/
def parameters? : (fuel : Nat) → List Char → Option (List (String × String))
  | _, [] => some []
  | 0, _ :: _ => none
  | fuel + 1, c :: r =>
    if c = ' ' then parameters? fuel r
    else
      let name := (c :: r).takeWhile isTokenChar
      match (c :: r).drop name.length with
      | '=' :: r =>
        if name = [] then none
        else do
          let (v, r) ← parameterValue? r
          return (lowerName (String.ofList name), String.ofList v) :: (← parameters? fuel r)
      | _ => none

/-- a parameter behind a media type -/
def mediaParameter? (name mediaType : String) : Option String :=
  let cs := mediaType.toList
  if !(cs.all fun c => c == '\t' || (32 ≤ c.toNat && c.toNat < 127)) then none
  else
    let main := cs.takeWhile isTokenChar
    match main, cs.drop main.length with
    | _ :: _, '/' :: r =>
      let sub := r.takeWhile isTokenChar
      match sub, r.drop sub.length with
      | _ :: _, c :: r =>
        if c = ';' ∨ c = ' ' then
          (parameters? (r.length + 1) r).bind fun ps => (ps.find? fun p => p.1 == name).map (·.2)
        else none
      | _, _ => none
    | _, _ => none

end CommentDigest.Http
