/-
The shortest decimal that reads back as a binary number.

A finite number `m * 2 ^ e` is what every real in an interval around it rounds to; the interval has its ends in it when
`m` is even. Among the decimals in the interval the ones with the fewest digits are taken, and of those the nearest to
the number (`shortest`). The search tries the two neighbours of the number on the grid of 1, 2, ... 17 digits in exact
arithmetic.
-/
import CommentDigest.Binary64.Basic

namespace CommentDigest.Binary64

/-- a decimal `digits * 10 ^ exponent` -/
structure Decimal where
  digits : Nat
  exponent : Int
  deriving DecidableEq, Repr, Inhabited

/-- the reals that round to a number, as ratios over one denominator -/
structure Interval where
  low : Nat
  value : Nat
  high : Nat
  den : Nat
  closed : Bool

/-- the interval of `m * 2 ^ e`; below a power of two the numbers lie twice as close -/
def interval (m : Nat) (e : Int) : Interval :=
  let below := if m = twoTo 52 ∧ minExponent < e then 1 else 2
  let (unit, den) := ratio 1 (e - 2)
  ⟨(4 * m - below) * unit, 4 * m * unit, (4 * m + 2) * unit, den, m % 2 == 0⟩

/-- is `num / den` in the interval -/
def Interval.holds (i : Interval) (num den : Nat) : Bool :=
  let lower := compare (i.low * den) (num * i.den)
  let upper := compare (num * i.den) (i.high * den)
  let inside := fun (o : Ordering) => o == .lt || (i.closed && o == .eq)
  inside lower && inside upper

/-- the position of the leading digit of `num / den`, as a power of ten -/
def leadingPower (num den : Nat) : Int :=
  let guess : Int := (((Nat.log2 num : Int) - (Nat.log2 den : Int)) * 1233) / 4096
  let reaches := fun (p : Int) => if 0 ≤ p then den * tenTo p.toNat ≤ num else den ≤ num * tenTo (-p).toNat
  if reaches (guess + 1) then guess + 1 else if reaches guess then guess else guess - 1

/-- `d * 10 ^ p` as a ratio -/
def Decimal.ratio (d : Decimal) : Nat × Nat :=
  if 0 ≤ d.exponent then (d.digits * tenTo d.exponent.toNat, 1) else (d.digits, tenTo (-d.exponent).toNat)

/-- the candidate on the grid `10 ^ p` that lies in the interval, the nearer one of two -/
def candidate (i : Interval) (p : Int) : Option Decimal :=
  let floor := if 0 ≤ p then i.value / (i.den * tenTo p.toNat) else i.value * tenTo (-p).toNat / i.den
  let down : Decimal := ⟨floor, p⟩
  let up : Decimal := ⟨floor + 1, p⟩
  let (dn, dd) := down.ratio
  let (un, ud) := up.ratio
  match decide (floor ≠ 0) && i.holds dn dd, i.holds un ud with
  | false, false => none
  | true, false => some down
  | false, true => some up
  | true, true =>
    let toDown := (i.value * dd - dn * i.den) * ud
    let toUp := (un * i.den - i.value * ud) * dd
    if toDown < toUp ∨ (toDown = toUp ∧ floor % 2 = 0) then some down else some up

/-- the first grid with a candidate, from `p` downwards -/
def search (i : Interval) : Nat → Int → Decimal
  | 0, p => ⟨i.value * tenTo (-p).toNat / i.den, p⟩
  | n + 1, p =>
    match candidate i p with
    | some d => d
    | none => search i n (p - 1)

/-- drops the zeros at the end of the digits -/
def Decimal.trim : Nat → Decimal → Decimal
  | 0, d => d
  | n + 1, d => if d.digits ≠ 0 ∧ d.digits % 10 = 0 then Decimal.trim n ⟨d.digits / 10, d.exponent + 1⟩ else d

/-- the shortest decimal of a positive number `m * 2 ^ e` -/
def shortest (m : Nat) (e : Int) : Decimal :=
  let i := interval m e
  (search i 17 (leadingPower i.value i.den)).trim 20

end CommentDigest.Binary64
