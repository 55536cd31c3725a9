/-
Lower-case text.

`lowercase` maps every capital letter to its lower-case letter. The capital I with a dot becomes an i and a combining
dot, and a capital sigma at the end of a word becomes a final sigma.
-/
import CommentDigest.Text.CaseTable

namespace CommentDigest

open CaseTable

/-- is a number in one of the ranges -/
def inRanges (ranges : List (Nat × Nat)) (n : Nat) : Bool := ranges.any fun r => r.1 ≤ n && n ≤ r.2

/-- the lower-case letter of one character -/
def lowerChar (c : Char) : Char :=
  if c.toNat < 128 then c.toLower
  else
    match lowerRuns.find? fun r => r.first ≤ c.toNat && c.toNat ≤ r.last && (c.toNat - r.first) % r.step == 0 with
    | some r => Char.ofNat (c.toNat + r.distance).toNat
    | none => c

/-- is the first character that counts one with a case -/
def meetsCased (cs : List Char) : Bool :=
  match cs.dropWhile fun c => inRanges ignorableRanges c.toNat with
  | c :: _ => inRanges casedRanges c.toNat
  | [] => false

/-- lower-case text, `before` being the text in front, last character first -/
def lowerFrom (before : List Char) : List Char → List Char
  | [] => []
  | c :: cs =>
    let lower :=
      if c.toNat = 0x3A3 then
        [Char.ofNat (if meetsCased before && !meetsCased cs then 0x3C2 else 0x3C3)]
      else if c.toNat = 0x130 then ['i', Char.ofNat 0x307]
      else [lowerChar c]
    lower ++ lowerFrom (c :: before) cs

/-- lower-case text -/
def lowercase (s : String) : String := String.ofList (lowerFrom [] s.toList)

end CommentDigest
