/-
JSON text.

- `Json.render`: compact, no blanks, members in order
- `Json.renderPretty`: two blanks a level, one item or member a line; empty arrays and objects stay on their line
- `quote`: a string literal; a quote, a backslash and the controls below U+0020 are escaped, everything else is itself
-/
import CommentDigest.Json.Value
import CommentDigest.Binary64.Text

namespace CommentDigest

namespace Json

/-! ## Scalars -/

/-- one lower-case hexadecimal digit -/
def hexDigit (n : Nat) : Char := Nat.digitChar n

/-- how a character stands in a string literal -/
def escapeChar (c : Char) : List Char :=
  if c = '"' then ['\\', '"']
  else if c = '\\' then ['\\', '\\']
  else if c = '\x08' then ['\\', 'b']
  else if c = '\x0c' then ['\\', 'f']
  else if c = '\n' then ['\\', 'n']
  else if c = '\r' then ['\\', 'r']
  else if c = '\t' then ['\\', 't']
  else if c.toNat < 32 then ['\\', 'u', '0', '0', hexDigit (c.toNat / 16), hexDigit (c.toNat % 16)]
  else [c]

/-- a string literal -/
def quote (s : List Char) : List Char := '"' :: (s.flatMap escapeChar ++ ['"'])

def intText (n : Int) : List Char :=
  if n < 0 then '-' :: Digits.ofNat n.natAbs else Digits.ofNat n.natAbs

def numberText : Number → List Char
  | .int n => intText n
  | .float x => (Binary64.dataText x).toList

/-! ## Compact text -/

mutual
/-- compact text of a value -/
def chars : Json → List Char
  | .null => ['n', 'u', 'l', 'l']
  | .bool true => ['t', 'r', 'u', 'e']
  | .bool false => ['f', 'a', 'l', 's', 'e']
  | .number n => numberText n
  | .string s => quote s.toList
  | .array xs => '[' :: (itemsChars xs ++ [']'])
  | .object ms => '{' :: (membersChars ms ++ ['}'])

/-- the items with commas between them -/
def itemsChars : List Json → List Char
  | [] => []
  | [x] => chars x
  | x :: y :: xs => chars x ++ ',' :: itemsChars (y :: xs)

/-- the members with commas between them -/
def membersChars : List (String × Json) → List Char
  | [] => []
  | [(k, v)] => quote k.toList ++ ':' :: chars v
  | (k, v) :: m :: ms => quote k.toList ++ ':' :: (chars v ++ ',' :: membersChars (m :: ms))
end

/-- compact text -/
def render (v : Json) : String := String.ofList v.chars

/-! ## Indented text -/

/-- a new line at a level -/
def newLine (level : Nat) : List Char := '\n' :: List.replicate (2 * level) ' '

mutual
/-- indented text of a value that stands at a level -/
def prettyChars (level : Nat) : Json → List Char
  | .array [] => ['[', ']']
  | .array (x :: xs) => '[' :: (prettyItems (level + 1) (x :: xs) ++ newLine level ++ [']'])
  | .object [] => ['{', '}']
  | .object (m :: ms) => '{' :: (prettyMembers (level + 1) (m :: ms) ++ newLine level ++ ['}'])
  | .null => ['n', 'u', 'l', 'l']
  | .bool true => ['t', 'r', 'u', 'e']
  | .bool false => ['f', 'a', 'l', 's', 'e']
  | .number n => numberText n
  | .string s => quote s.toList

def prettyItems (level : Nat) : List Json → List Char
  | [] => []
  | [x] => newLine level ++ prettyChars level x
  | x :: y :: xs => newLine level ++ prettyChars level x ++ ',' :: prettyItems level (y :: xs)

def prettyMembers (level : Nat) : List (String × Json) → List Char
  | [] => []
  | [(k, v)] => newLine level ++ quote k.toList ++ ':' :: ' ' :: prettyChars level v
  | (k, v) :: m :: ms =>
    newLine level ++ quote k.toList ++ ':' :: ' ' :: (prettyChars level v ++ ',' :: prettyMembers level (m :: ms))
end

/-- indented text -/
def renderPretty (v : Json) : String := String.ofList (v.prettyChars 0)

end Json

end CommentDigest
