/-
Decimal text of binary numbers.

- `plainText`: positional at any size, no fraction for a whole number (`100000`, `1.5`, `inf`, `NaN`)
- `dataText`: the form used in JSON text: positional from 1e-5 up to 1e16 with at least one place, else an exponent with
  its sign (`1.0`, `0.00001`, `1e-7`, `1e+16`)
- `ofText?`: reads a decimal, `inf` or `nan` with an optional sign
-/
import CommentDigest.Binary64.Shortest
import CommentDigest.Text.Digits

namespace CommentDigest.Binary64

/-! ## Writing -/

/-- `digits * 10 ^ exponent` with a point where one is needed -/
def positional (digits : List Char) (exponent : Int) : List Char :=
  if 0 ≤ exponent then digits ++ List.replicate exponent.toNat '0'
  else
    let places := (-exponent).toNat
    if places < digits.length then
      digits.take (digits.length - places) ++ '.' :: digits.drop (digits.length - places)
    else '0' :: '.' :: (List.replicate (places - digits.length) '0' ++ digits)

/-- one digit, a point and the others when there are some, then the exponent with its sign -/
def scientific (digits : List Char) (exponent : Int) : List Char :=
  let power := exponent + (digits.length - 1 : Nat)
  let mantissa := match digits with
    | d :: [] => [d]
    | d :: r => d :: '.' :: r
    | [] => []
  mantissa ++ 'e' :: (if power < 0 then '-' else '+') :: Digits.ofNat power.natAbs

def sign (negative : Bool) : List Char := if negative then ['-'] else []

/-- positional at any size; a whole number has no point -/
def plainText : Binary64 → String
  | nan => "NaN"
  | infinite s => String.ofList (sign s ++ ['i', 'n', 'f'])
  | finite s m e =>
    if m = 0 then String.ofList (sign s ++ ['0'])
    else
      let d := shortest m e
      String.ofList (sign s ++ positional (Digits.ofNat d.digits) d.exponent)

/-- a whole number ends in `.0`; very small and very large ones have an exponent -/
def dataText : Binary64 → String
  | nan => "null"
  | infinite _ => "null"
  | finite s m e =>
    if m = 0 then String.ofList (sign s ++ ['0', '.', '0'])
    else
      let d := shortest m e
      let digits := Digits.ofNat d.digits
      let power := d.exponent + (digits.length - 1 : Nat)
      let body :=
        if -5 ≤ power ∧ power < 16 then
          if 0 ≤ d.exponent then positional digits d.exponent ++ ['.', '0'] else positional digits d.exponent
        else scientific digits d.exponent
      String.ofList (sign s ++ body)

/-! ## Reading -/

/-- the exponent part after the mantissa: nothing, or `e`, an optional sign and digits -/
def exponentPart : List Char → Option Int
  | [] => some 0
  | c :: r =>
    if c = 'e' ∨ c = 'E' then
      let (negative, ds) := match r with
        | '+' :: ds => (false, ds)
        | '-' :: ds => (true, ds)
        | ds => (false, ds)
      if Digits.areDigits ds then
        some (if negative then -(Digits.value ds : Int) else Digits.value ds)
      else none
    else none

/-- `digits * 10 ^ exponent`, deciding the far ends without writing the power out -/
def ofDecimalText (negative : Bool) (digits : List Char) (exponent : Int) : Binary64 :=
  let significant := digits.dropWhile (· == '0')
  if significant = [] then finite negative 0 minExponent
  else if 400 < exponent + significant.length then infinite negative
  else if exponent + significant.length < -400 then finite negative 0 minExponent
  else ofDecimal negative (Digits.value significant) exponent

/-- a decimal without its sign: digits with at most one point among or beside them, then an exponent -/
def ofUnsignedText? (negative : Bool) (cs : List Char) : Option Binary64 :=
  let lower := cs.map Char.toLower
  if lower = ['i', 'n', 'f'] ∨ lower = ['i', 'n', 'f', 'i', 'n', 'i', 't', 'y'] then some (infinite negative)
  else if lower = ['n', 'a', 'n'] then some nan
  else
    let whole := cs.takeWhile Char.isDigit
    let rest := cs.dropWhile Char.isDigit
    let (places, rest) := match rest with
      | '.' :: r => (r.takeWhile Char.isDigit, r.dropWhile Char.isDigit)
      | r => ([], r)
    if whole = [] ∧ places = [] then none
    else (exponentPart rest).map fun e => ofDecimalText negative (whole ++ places) (e - places.length)

/-- reads a decimal with an optional sign -/
def ofText? (s : String) : Option Binary64 :=
  match s.toList with
  | '+' :: r => ofUnsignedText? false r
  | '-' :: r => ofUnsignedText? true r
  | r => ofUnsignedText? false r

end CommentDigest.Binary64
