/-
Binary floating point numbers of 64 bits, kept as exact integers.

A finite number is a sign and `mantissa * 2 ^ exponent`. In the canonical form the exponent is at least -1074, the
mantissa is below 2 ^ 53, and it is at least 2 ^ 52 unless the exponent is -1074.

- `ofRatio`: the canonical number nearest to a ratio of naturals, ties to the even mantissa
- `mul`, `div`, `ofNat`, `ofDecimal`: the exact result, rounded once
- `roundToInt`: the nearest integer, halves away from zero
-/
import CommentDigest.Power

namespace CommentDigest

/-- a binary floating point number of 64 bits -/
inductive Binary64 where
  | finite (negative : Bool) (mantissa : Nat) (exponent : Int)
  | infinite (negative : Bool)
  | nan
  deriving DecidableEq, Repr, Inhabited

namespace Binary64

/-! ## Rounding -/

/-- the least exponent of a finite number -/
def minExponent : Int := -1074

/-- the greatest exponent of a finite number -/
def maxExponent : Int := 971

/-- `num / den` to the nearest natural, a half to the even neighbour -/
def divRoundEven (num den : Nat) : Nat :=
  let q := num / den
  let twice := 2 * (num % den)
  if twice < den then q
  else if den < twice then q + 1
  else if q % 2 = 0 then q else q + 1

/-- numerator and denominator of `(num / den) / 2 ^ e` -/
def scaleDown (num den : Nat) (e : Int) : Nat × Nat :=
  if 0 ≤ e then (num, den * twoTo e.toNat) else (num * twoTo (-e).toNat, den)

/-- an exponent whose mantissa for `num / den` has 53 bits, never below the least one -/
def exponentFor (num den : Nat) : Int :=
  let guess : Int := (Nat.log2 num : Int) - (Nat.log2 den : Int) - 52
  let (n, d) := scaleDown num den guess
  let e := if n < d * twoTo 52 then guess - 1 else guess
  if e < minExponent then minExponent else e

/-- the number nearest to `num / den`; infinite when the mantissa would not fit -/
def ofRatio (negative : Bool) (num den : Nat) : Binary64 :=
  if num = 0 then finite negative 0 minExponent
  else
    let e := exponentFor num den
    let (n, d) := scaleDown num den e
    let m := divRoundEven n d
    let (m, e) := if m = twoTo 53 then (twoTo 52, e + 1) else (m, e)
    if maxExponent < e then infinite negative else finite negative m e

/-- the number nearest to a natural -/
def ofNat (n : Nat) : Binary64 := ofRatio false n 1

/-- the number nearest to `digits * 10 ^ exponent` -/
def ofDecimal (negative : Bool) (digits : Nat) (exponent : Int) : Binary64 :=
  if 0 ≤ exponent then ofRatio negative (digits * tenTo exponent.toNat) 1
  else ofRatio negative digits (tenTo (-exponent).toNat)

/-! ## Arithmetic -/

/-- `mantissa * 2 ^ exponent` as a ratio -/
def ratio (mantissa : Nat) (exponent : Int) : Nat × Nat :=
  if 0 ≤ exponent then (mantissa * twoTo exponent.toNat, 1) else (mantissa, twoTo (-exponent).toNat)

def isInfinite : Binary64 → Bool
  | infinite _ => true
  | _ => false

/-- either zero -/
def isZero : Binary64 → Bool
  | finite _ m _ => m == 0
  | _ => false

def neg : Binary64 → Binary64
  | finite s m e => finite (!s) m e
  | infinite s => infinite (!s)
  | nan => nan

/-- product, rounded once -/
def mul : Binary64 → Binary64 → Binary64
  | finite s m e, finite t n f =>
    let (a, b) := ratio m e
    let (c, d) := ratio n f
    ofRatio (s != t) (a * c) (b * d)
  | finite s m _, infinite t => if m = 0 then nan else infinite (s != t)
  | infinite s, finite t n _ => if n = 0 then nan else infinite (s != t)
  | infinite s, infinite t => infinite (s != t)
  | _, _ => nan

/-- quotient, rounded once -/
def div : Binary64 → Binary64 → Binary64
  | finite s m e, finite t n f =>
    if n = 0 then (if m = 0 then nan else infinite (s != t))
    else
      let (a, b) := ratio m e
      let (c, d) := ratio n f
      ofRatio (s != t) (a * d) (b * c)
  | finite s _ _, infinite t => finite (s != t) 0 minExponent
  | infinite s, finite t _ _ => infinite (s != t)
  | _, _ => nan

/-- the nearest integer, halves away from zero; `none` for the infinite ones and for `nan` -/
def roundToInt : Binary64 → Option Int
  | finite s m e =>
    let (n, d) := ratio m e
    let q : Int := ((2 * n + d) / (2 * d) : Nat)
    some (if s then -q else q)
  | _ => none

end Binary64

end CommentDigest
