/-
Points in time as text: date and time of day at longitude zero, with the digits of the second that are needed, by threes.
-/
import CommentDigest.Text.Digits

namespace CommentDigest

/-- seconds since the beginning of 1970, and nanoseconds within the second -/
structure Instant where
  seconds : Nat
  nanoseconds : Nat
  deriving DecidableEq, Repr

namespace Instant

/-- a day of the calendar -/
structure Date where
  year : Nat
  month : Nat
  day : Nat
  deriving DecidableEq, Repr

/-- days in 400 years, after which the calendar repeats -/
def daysPerCycle : Nat := 146097

/-- days from the first of March of year 0 to the beginning of 1970 -/
def daysBefore1970 : Nat := 719468

/-- the date, days after the beginning of 1970; years are counted from March here, so that a leap day ends a year -/
def dateOf (days : Nat) : Date :=
  let n := days + daysBefore1970
  let inCycle := n % daysPerCycle
  let yearInCycle := (inCycle - inCycle / 1460 + inCycle / 36524 - inCycle / 146096) / 365
  let inYear := inCycle - (365 * yearInCycle + yearInCycle / 4 - yearInCycle / 100)
  let fromMarch := (5 * inYear + 2) / 153
  let month := if fromMarch < 10 then fromMarch + 3 else fromMarch - 9
  let year := yearInCycle + n / daysPerCycle * 400
  ⟨if month ≤ 2 then year + 1 else year, month, inYear - (153 * fromMarch + 2) / 5 + 1⟩

/-- digits with noughts in front -/
def padded (width n : Nat) : List Char :=
  let ds := Digits.ofNat n
  List.replicate (width - ds.length) '0' ++ ds

/-- the digits of the second behind the point -/
def fraction (nanoseconds : Nat) : List Char :=
  if nanoseconds = 0 then []
  else if nanoseconds % 1000000 = 0 then '.' :: padded 3 (nanoseconds / 1000000)
  else if nanoseconds % 1000 = 0 then '.' :: padded 6 (nanoseconds / 1000)
  else '.' :: padded 9 nanoseconds

def text (i : Instant) : String :=
  let date := dateOf (i.seconds / 86400)
  let s := i.seconds % 86400
  String.ofList (padded 4 date.year ++ '-' :: padded 2 date.month ++ '-' :: padded 2 date.day ++ 'T' ::
    padded 2 (s / 3600) ++ ':' :: padded 2 (s / 60 % 60) ++ ':' :: padded 2 (s % 60) ++
    fraction i.nanoseconds ++ ['Z'])

end Instant

end CommentDigest
