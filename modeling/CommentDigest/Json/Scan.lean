/-
The parts of a JSON text that are not values in themselves: blanks, words, string bodies and numbers.

Each function takes the text at a place and gives what it read and the text after it, or a `Stop`.

- `skipBlanks`, `word`
- `stringBody`: from behind the opening quote to behind the closing one
- `number`: a number behind its minus sign. Digits are collected in an integer of 64 bits; when the next digit would not
  fit, it and the later ones only count as places. A number with a point, an exponent or too many digits is the collected
  integer, rounded, times or divided by a power of ten, rounded again (`scale`).
-/
import CommentDigest.Json.Fault
import CommentDigest.Json.Value
import CommentDigest.Binary64.Text

namespace CommentDigest.Json.Read

/-! ## Blanks and words -/

/-- the characters between the parts of a text -/
def isBlank (c : Char) : Bool := c = ' ' || c = '\n' || c = '\t' || c = '\r'

def skipBlanks (cs : List Char) : List Char := cs.dropWhile isBlank

/-- the letters of a word, one by one -/
def word : (letters : List Char) → List Char → Except Stop (List Char)
  | [], cs => .ok cs
  | _ :: _, [] => stopAt .endInValue []
  | l :: ls, c :: cs => if c = l then word ls cs else stopOn .noIdent (c :: cs)

/-! ## Strings -/

/-- value of four hexadecimal digits -/
def hexValue4? (a b c d : Char) : Option Nat := do
  let a ← Digits.hexValue? a
  let b ← Digits.hexValue? b
  let c ← Digits.hexValue? c
  let d ← Digits.hexValue? d
  return ((a * 16 + b) * 16 + c) * 16 + d

/-- the stop on fewer than four characters where four hexadecimal digits belong -/
def shortHex {α : Type} (cs : List Char) : Except Stop α :=
  if byteCount cs < 4 then stopAt .endInString [] else .error ⟨.badEscape, cs, 4⟩

/-- the character behind a backslash -/
def unescape? (c : Char) : Option Char :=
  if c = '"' then some '"'
  else if c = '\\' then some '\\'
  else if c = '/' then some '/'
  else if c = 'b' then some '\x08'
  else if c = 'f' then some '\x0c'
  else if c = 'n' then some '\n'
  else if c = 'r' then some '\r'
  else if c = 't' then some '\t'
  else none

def isLeading (n : Nat) : Bool := 0xD800 ≤ n && n < 0xDC00

def isTrailing (n : Nat) : Bool := 0xDC00 ≤ n && n < 0xE000

/-- the character of a surrogate pair -/
def pairChar (high low : Nat) : Char := Char.ofNat (0x10000 + (high - 0xD800) * 0x400 + (low - 0xDC00))

/-- a character in front of what is read later -/
def prepend (c : Char) : Except Stop (List Char × List Char) → Except Stop (List Char × List Char)
  | .ok (s, r) => .ok (c :: s, r)
  | .error e => .error e

/-- the characters of a string literal and the text behind its closing quote -/
def stringBody : List Char → Except Stop (List Char × List Char)
  | [] => stopAt .endInString []
  | '"' :: r => .ok ([], r)
  | '\\' :: [] => stopAt .endInString []
  | '\\' :: 'u' :: a :: b :: c :: d :: r =>
    match hexValue4? a b c d with
    | none => .error ⟨.badEscape, a :: b :: c :: d :: r, 4⟩
    | some n =>
      if isTrailing n then stopAt .loneSurrogate r
      else if isLeading n then
        match r with
        | [] => stopAt .endInString []
        | '\\' :: [] => stopAt .endInString []
        | '\\' :: 'u' :: e :: f :: g :: h :: r' =>
          match hexValue4? e f g h with
          | none => .error ⟨.badEscape, e :: f :: g :: h :: r', 4⟩
          | some m => if isTrailing m then prepend (pairChar n m) (stringBody r') else stopAt .loneSurrogate r'
        | '\\' :: 'u' :: short => shortHex short
        | '\\' :: x :: r' => stopOn .cutHexEscape (x :: r')
        | x :: r' => stopOn .cutHexEscape (x :: r')
      else prepend (Char.ofNat n) (stringBody r)
  | '\\' :: 'u' :: short => shortHex short
  | '\\' :: c :: r =>
    match unescape? c with
    | some x => prepend x (stringBody r)
    | none => stopOn .badEscape (c :: r)
  | c :: r => if c.toNat < 32 then stopOn .controlInString (c :: r) else prepend c (stringBody r)

/-! ## Numbers -/

/-- the longest run of digits that keeps the integer below 2 ^ 64, and the digits after it -/
def collect : Nat → List Char → Nat × List Char
  | n, [] => (n, [])
  | n, c :: cs =>
    let n' := 10 * n + (c.toNat - '0'.toNat)
    if n' < twoTo 64 then collect n' cs else (n, c :: cs)

/-- a power of ten as a binary number -/
def tenPower (k : Nat) : Binary64 := Binary64.ofDecimal false 1 k

/-- `f * 10 ^ e`, one rounding a step; `none` when it is too large -/
def scale : Nat → Binary64 → Int → Option Binary64
  | 0, f, _ => some f
  | fuel + 1, f, e =>
    if e.natAbs ≤ 308 then
      if 0 ≤ e then
        let g := f.mul (tenPower e.natAbs)
        if g.isInfinite then none else some g
      else some (f.div (tenPower e.natAbs))
    else if f.isZero then some f
    else if 0 ≤ e then none
    else scale fuel (f.div (tenPower 308)) (e + 308)

/-- the float of collected digits and a power of ten -/
def scaled (positive : Bool) (digits : Nat) (e : Int) (rest : List Char) : Except Stop (Number × List Char) :=
  match scale 4 (Binary64.ofNat digits) e with
  | none => stopAt .numberTooLarge rest
  | some f => .ok (.float (if positive then f else f.neg), rest)

/-- where the digits of an exponent pass 2 ^ 31 - 1: the text behind that digit -/
def exponentOverflow? : Nat → List Char → Option (List Char)
  | _, [] => none
  | n, c :: cs =>
    if c.isDigit then
      let n' := 10 * n + (c.toNat - '0'.toNat)
      if n' < twoTo 31 then exponentOverflow? n' cs else some cs
    else none

/-- the part behind `e` -/
def exponent (positive : Bool) (digits : Nat) (e : Int) (cs : List Char) : Except Stop (Number × List Char) :=
  let (up, cs) := match cs with
    | '+' :: r => (true, r)
    | '-' :: r => (false, r)
    | r => (true, r)
  match cs with
  | [] => stopAt .endInValue []
  | c :: _ =>
    if c.isDigit then
      let rest := cs.dropWhile Char.isDigit
      match exponentOverflow? 0 cs with
      | some after =>
        if digits ≠ 0 && up then stopAt .numberTooLarge after
        else .ok (.float (.finite (!positive) 0 Binary64.minExponent), rest)
      | none =>
        let power : Int := Digits.value (cs.takeWhile Char.isDigit)
        scaled positive digits (if up then e + power else e - power) rest
    else stopOn .badNumber cs

/-- what follows the digits of a float: an exponent or nothing -/
def exponentOrEnd (positive : Bool) (digits : Nat) (e : Int) (cs : List Char) : Except Stop (Number × List Char) :=
  match cs with
  | c :: r => if c = 'e' ∨ c = 'E' then exponent positive digits e r else scaled positive digits e cs
  | [] => scaled positive digits e []

/-- the part behind the point -/
def places (positive : Bool) (digits : Nat) (e : Int) (cs : List Char) : Except Stop (Number × List Char) :=
  let ds := cs.takeWhile Char.isDigit
  let rest := cs.dropWhile Char.isDigit
  if ds = [] then stopOn (if cs = [] then .endInValue else .badNumber) cs
  else
    let (digits', left) := collect digits ds
    exponentOrEnd positive digits' (e - (ds.length - left.length : Nat)) rest

/-- the integer of a sign and a magnitude below 2 ^ 64; a float when it is -0 or below -2 ^ 63 -/
def whole (positive : Bool) (n : Nat) : Number :=
  if positive then .int n
  else if 1 ≤ n ∧ n ≤ twoTo 63 then .int (-n)
  else .float (Binary64.ofNat n).neg

/-- what follows the digits of the whole part -/
def afterWhole (positive : Bool) (n : Nat) (extra : Nat) (cs : List Char) : Except Stop (Number × List Char) :=
  match cs with
  | '.' :: r => places positive n extra r
  | 'e' :: r => exponent positive n extra r
  | 'E' :: r => exponent positive n extra r
  | _ => if extra = 0 then .ok (whole positive n, cs) else scaled positive n extra cs

/-- a number behind its minus sign, if it has one -/
def number (positive : Bool) (cs : List Char) : Except Stop (Number × List Char) :=
  match cs with
  | [] => stopAt .endInValue []
  | c :: r =>
    if c = '0' then
      match r with
      | d :: _ => if d.isDigit then stopOn .badNumber r else afterWhole positive 0 0 r
      | [] => afterWhole positive 0 0 []
    else if c.isDigit then
      let (n, left) := collect 0 (cs.takeWhile Char.isDigit)
      afterWhole positive n left.length (cs.dropWhile Char.isDigit)
    else stopOn .badNumber cs

end CommentDigest.Json.Read
