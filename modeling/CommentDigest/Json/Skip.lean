/-
Reading over JSON text without keeping it.

`skip` goes over one value at any nesting. It asks less of a text than `value` does: the code of an escape may be any
four hexadecimal digits, a number may be of any size, and a comma with nothing behind it is a missing value or name.
-/
import CommentDigest.Json.Reader

namespace CommentDigest.Json.Read

/-- over a string, from behind its opening quote -/
def skipString : List Char → Except Stop (List Char)
  | [] => stopAt .endInString []
  | '"' :: r => .ok r
  | '\\' :: [] => stopAt .endInString []
  | '\\' :: 'u' :: a :: b :: c :: d :: r =>
    match hexValue4? a b c d with
    | none => .error ⟨.badEscape, a :: b :: c :: d :: r, 4⟩
    | some _ => skipString r
  | '\\' :: 'u' :: short => shortHex short
  | '\\' :: c :: r => if (unescape? c).isSome then skipString r else stopOn .badEscape (c :: r)
  | c :: r => if c.toNat < 32 then stopAt .controlInString (c :: r) else skipString r

/-- over the part behind `e` -/
def skipExponent (cs : List Char) : Except Stop (List Char) :=
  let cs := match cs with
    | '+' :: r => r
    | '-' :: r => r
    | r => r
  match cs with
  | [] => stopAt .badNumber []
  | c :: _ => if c.isDigit then .ok (cs.dropWhile Char.isDigit) else stopOn .badNumber cs

/-- over an exponent or nothing -/
def skipExponentOrEnd (cs : List Char) : Except Stop (List Char) :=
  match cs with
  | 'e' :: r => skipExponent r
  | 'E' :: r => skipExponent r
  | r => .ok r

/-- over what follows the whole part of a number -/
def skipAfterWhole (cs : List Char) : Except Stop (List Char) :=
  match cs with
  | '.' :: r =>
    if r.takeWhile Char.isDigit = [] then stopOn .badNumber r else skipExponentOrEnd (r.dropWhile Char.isDigit)
  | r => skipExponentOrEnd r

/-- over a number behind its minus sign -/
def skipNumber (cs : List Char) : Except Stop (List Char) :=
  match cs with
  | [] => stopAt .badNumber []
  | c :: r =>
    if c = '0' then
      match r with
      | d :: _ => if d.isDigit then stopOn .badNumber r else skipAfterWhole r
      | [] => skipAfterWhole []
    else if c.isDigit then skipAfterWhole (cs.dropWhile Char.isDigit)
    else stopOn .badNumber cs

mutual
/-- over one value -/
def skip : (fuel : Nat) → List Char → Except Stop (List Char)
  | 0, cs => stopAt .endInValue cs
  | fuel + 1, cs =>
    match skipBlanks cs with
    | [] => stopAt .endInValue []
    | c :: r =>
      if c = 'n' then word ['u', 'l', 'l'] r
      else if c = 't' then word ['r', 'u', 'e'] r
      else if c = 'f' then word ['a', 'l', 's', 'e'] r
      else if c = '-' then skipNumber r
      else if c.isDigit then skipNumber (c :: r)
      else if c = '"' then skipString r
      else if c = '[' then
        match skipBlanks r with
        | [] => stopAt .endInList []
        | ']' :: r => .ok r
        | r => skipItems fuel r
      else if c = '{' then
        match skipBlanks r with
        | [] => stopAt .endInObject []
        | '}' :: r => .ok r
        | r => skipMembers fuel r
      else stopOn .noValue (c :: r)

/-- over the values of an array and its bracket -/
def skipItems : (fuel : Nat) → List Char → Except Stop (List Char)
  | 0, cs => stopAt .endInList cs
  | fuel + 1, cs => do
    let r ← skip fuel cs
    match skipBlanks r with
    | [] => stopAt .endInList []
    | ']' :: r => .ok r
    | ',' :: r => skipItems fuel r
    | r => stopOn .noListEnd r

/-- over the members of an object and its brace -/
def skipMembers : (fuel : Nat) → List Char → Except Stop (List Char)
  | 0, cs => stopAt .endInObject cs
  | fuel + 1, cs =>
    match skipBlanks cs with
    | [] => stopAt .endInObject []
    | '"' :: r => do
      let r ← skipString r
      let r ← colon r
      let r ← skip fuel r
      match skipBlanks r with
      | [] => stopAt .endInObject []
      | '}' :: r => .ok r
      | ',' :: r => skipMembers fuel r
      | r => stopOn .noObjectEnd r
    | r => stopOn .keyNotString r
end

/-- over one value of any nesting -/
def skipValue (cs : List Char) : Except Stop (List Char) := skip (2 * cs.length + 2) cs

end CommentDigest.Json.Read
