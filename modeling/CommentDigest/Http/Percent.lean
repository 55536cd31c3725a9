/-
Characters of a URL written as percent signs and hexadecimal digits.

- `percentEncode`: characters of a set, and all that are not ASCII
- `percentDecode`: the bytes that a text stands for
-/
import CommentDigest.Text.Digits
import CommentDigest.Text.Utf8

namespace CommentDigest.Http

/-! ## Sets -/

def isControl (c : Char) : Bool := c.toNat < 32 || c.toNat == 127

/-- what is encoded in a query -/
def querySet (c : Char) : Bool := isControl c || c == ' ' || c == '"' || c == '#' || c == '<' || c == '>'

/-- what is encoded in the query of a scheme for the web -/
def webQuerySet (c : Char) : Bool := querySet c || c == '\''

/-- what is encoded behind the `#` -/
def fragmentSet (c : Char) : Bool := isControl c || c == ' ' || c == '"' || c == '<' || c == '>' || c.toNat == 96

/-- what is encoded in a path -/
def pathSet (c : Char) : Bool := fragmentSet c || c == '#' || c == '?' || c == '{' || c == '}'

/-- what is encoded in a user name or a password -/
def userSet (c : Char) : Bool :=
  pathSet c || c == '/' || c == ':' || c == ';' || c == '=' || c == '@' || c == '[' || c == '\\' || c == ']' ||
    c == '^' || c == '|'

/-! ## Encoding -/

/-- a hexadecimal digit, capital -/
def hexDigit (n : Nat) : Char := (Nat.digitChar n).toUpper

def percentByte (b : UInt8) : List Char := ['%', hexDigit (b.toNat / 16), hexDigit (b.toNat % 16)]

def percentChar (set : Char → Bool) (c : Char) : List Char :=
  if 128 ≤ c.toNat ∨ set c then (utf8Bytes [c]).flatMap percentByte else [c]

/-- the characters of a set, and all that are not ASCII, encoded -/
def percentEncode (set : Char → Bool) (cs : List Char) : List Char := cs.flatMap (percentChar set)

/-- the bytes that a text stands for -/
def percentDecode : List Char → List UInt8
  | [] => []
  | '%' :: a :: b :: r =>
    match Digits.hexValue? a, Digits.hexValue? b with
    | some x, some y => UInt8.ofNat (16 * x + y) :: percentDecode r
    | _, _ => 37 :: percentDecode (a :: b :: r)
  | c :: r => utf8Bytes [c] ++ percentDecode r

end CommentDigest.Http
