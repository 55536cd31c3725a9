/-
Decimal integers in text.

- `Digits.value`: the value of a digit string of any length
- `Digits.unsigned?`: digits with an optional plus sign
- `Digits.signed?`: digits with an optional sign
- `Digits.word?`: digits with an optional plus sign, as far as 64 bits reach
- `Digits.hexValue?`: the value of a hexadecimal digit
-/
import CommentDigest.Power

namespace CommentDigest.Digits

/-- value of a digit string -/
def value (cs : List Char) : Nat := cs.foldl (fun n c => 10 * n + (c.toNat - '0'.toNat)) 0

/-- one digit or more -/
def areDigits (cs : List Char) : Bool := cs ≠ [] && cs.all Char.isDigit

/-- a natural with an optional plus sign -/
def unsigned? (cs : List Char) : Option Nat :=
  let ds := match cs with
    | '+' :: r => r
    | r => r
  if areDigits ds then some (value ds) else none

/-- an integer with an optional sign -/
def signed? (cs : List Char) : Option Int :=
  match cs with
  | '-' :: ds => if areDigits ds then some (-(value ds : Int)) else none
  | _ => (unsigned? cs).map Int.ofNat

/-- digits written behind a word; none as soon as a step leaves 64 bits -/
def wordFrom? (word : UInt64) : List Char → Option UInt64
  | [] => some word
  | c :: cs =>
    let next := 10 * word.toNat + (c.toNat - '0'.toNat)
    if next < twoTo 64 then wordFrom? (UInt64.ofNat next) cs else none

/-- a word of 64 bits with an optional plus sign -/
def word? (cs : List Char) : Option UInt64 :=
  let ds := match cs with
    | '+' :: r => r
    | r => r
  if areDigits ds then wordFrom? 0 ds else none

/-- value of a hexadecimal digit -/
def hexValue? (c : Char) : Option Nat :=
  if '0' ≤ c ∧ c ≤ '9' then some (c.toNat - '0'.toNat)
  else if 'a' ≤ c ∧ c ≤ 'f' then some (c.toNat - 'a'.toNat + 10)
  else if 'A' ≤ c ∧ c ≤ 'F' then some (c.toNat - 'A'.toNat + 10)
  else none

/-- decimal digits of a natural -/
def ofNat (n : Nat) : List Char := Nat.toDigits 10 n

end CommentDigest.Digits
