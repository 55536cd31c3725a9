/-
Settings from a tree.

A value of another type is converted where that makes sense: booleans and numbers have a text, and a text, a boolean or a
float gives an integer. What cannot be converted is a `Misfit` that names the key and the source.

- `Tree.toText`, `Tree.toInt`, `Tree.toNat`, `Tree.toHeaders`
- `Settings.ofTree`: every field in turn; one that the tree does not mention keeps its default
-/
import CommentDigest.Settings.Json
import CommentDigest.Settings.Tree

namespace CommentDigest.Settings

/-! ## Misfits -/

/-- why a tree does not give settings -/
inductive Misfit where
  /-- a value that cannot be converted, its key and its source -/
  | unconverted (found expected key : String) (origin : Option String)
  /-- a list or a table that is not built as it should be -/
  | misshapen (message : String)
  deriving DecidableEq, Repr

namespace Misfit

/-- the words for a misfit -/
def message : Misfit → String
  | unconverted found expected key origin =>
    "invalid type: " ++ found ++ ", expected " ++ expected ++ " for key `" ++ key ++ "`" ++
      match origin with
      | some o => " in " ++ o
      | none => ""
  | misshapen m => m

/-- a step in front of a key; a point stands between two names -/
def joinKey (step key : String) : String :=
  if key = "" ∨ key.toList.head? = some '[' then step ++ key else step ++ "." ++ key

/-- a misfit inside a value that stands under a step -/
def under (step : String) : Misfit → Misfit
  | unconverted found expected key origin => unconverted found expected (joinKey step key) origin
  | misshapen m => misshapen m

end Misfit

/-- a result inside a value that stands under a step -/
def under {α : Type} (step : String) : Except Misfit α → Except Misfit α
  | .ok a => .ok a
  | .error m => .error (m.under step)

namespace Tree

/-! ## Words -/

/-- a value in the words for a failed conversion -/
def found : Tree → String
  | .leaf _ .nothing => "unit value"
  | .leaf _ (.bool b) => "boolean `" ++ toString b ++ "`"
  | .leaf _ (.int n) => "integer 64 bit `" ++ toString n ++ "`"
  | .leaf _ (.float x) => "floating point `" ++ x.plainText ++ "`"
  | .leaf _ (.text s) => "string " ++ quoted s
  | .list _ _ => "sequence"
  | .table _ _ => "map"

/-- a float with a point in it -/
def pointedText (x : Binary64) : String :=
  match x with
  | .finite _ _ _ => if x.plainText.toList.contains '.' then x.plainText else x.plainText ++ ".0"
  | _ => x.plainText

/-- a value in the words for a value of the wrong shape -/
def shape : Tree → String
  | .leaf _ (.int n) => "integer `" ++ toString n ++ "`"
  | .leaf _ (.float x) => "floating point `" ++ pointedText x ++ "`"
  | t => t.found

def origin : Tree → Option String
  | .leaf o _ => o
  | .list o _ => o
  | .table o _ => o

/-- the misfit of a value that cannot be converted -/
def unfit {α : Type} (t : Tree) (expected : String) : Except Misfit α :=
  .error (.unconverted t.found expected "" t.origin)

/-- the misfit of a value of the wrong shape -/
def misshapen {α : Type} (t : Tree) (expected : String) : Except Misfit α :=
  .error (.misshapen ("invalid type: " ++ t.shape ++ ", expected " ++ expected))

/-! ## Values -/

/-- a text; booleans and numbers are written out -/
def toText (t : Tree) : Except Misfit String :=
  match t with
  | .leaf _ (.text s) => .ok s
  | .leaf _ (.bool b) => .ok (toString b)
  | .leaf _ (.int n) => .ok (toString n)
  | .leaf _ (.float x) => .ok x.plainText
  | t => t.unfit "a string"

/-- a text, or nothing -/
def toOptionalText (t : Tree) : Except Misfit (Option String) :=
  match t with
  | .leaf _ .nothing => .ok none
  | t => t.toText.map some

/-- the integer nearest to a float that lies between two bounds; a float that is no number counts as zero -/
def roundWithin (low high : Int) (x : Binary64) : Int :=
  match x with
  | .infinite negative => if negative then low else high
  | .nan => 0
  | .finite _ _ _ => max low (min high (x.roundToInt.getD 0))

/-- the integer that a word for yes or no stands for -/
def switchWord? (s : String) : Option Int :=
  let w := lowercase s
  if w = "true" ∨ w = "on" ∨ w = "yes" then some 1
  else if w = "false" ∨ w = "off" ∨ w = "no" then some 0
  else none

/-- the integer of a text between two bounds -/
def textInt? (read : List Char → Option Int) (low high : Int) (s : String) : Option Int :=
  match switchWord? s with
  | some n => some n
  | none => (read s.toList).filter fun n => low ≤ n ∧ n ≤ high

/-- an integer of 64 bits with sign -/
def toInt (t : Tree) : Except Misfit Int :=
  let low := -(twoTo 63 : Int)
  let high := (twoTo 63 : Int) - 1
  match t with
  | .leaf _ (.int n) => .ok n
  | .leaf _ (.bool b) => .ok (if b then 1 else 0)
  | .leaf _ (.float x) => .ok (roundWithin low high x)
  | .leaf _ (.text s) =>
    match textInt? Digits.signed? low high s with
    | some n => .ok n
    | none => t.unfit "an integer"
  | t => t.unfit "an integer"

/-- an integer of 64 bits without sign -/
def toNat (t : Tree) : Except Misfit Nat :=
  let high := (twoTo 64 : Int) - 1
  match t with
  | .leaf _ (.int n) => if 0 ≤ n then .ok n.toNat else t.unfit "an unsigned 64 bit or less integer"
  | .leaf _ (.bool b) => .ok (if b then 1 else 0)
  | .leaf _ (.float x) => .ok (roundWithin 0 high x).toNat
  | .leaf _ (.text s) =>
    match textInt? (fun cs => (Digits.unsigned? cs).map Int.ofNat) 0 high s with
    | some n => .ok n.toNat
    | none => t.unfit "an integer"
  | t => t.unfit "an integer"

/-! ## Headers -/

/-- a member of a header, when it is there -/
def headerPart (entries : List (String × Tree)) (name : String) : Except Misfit (Option String) :=
  match Assoc.find? (· == ·) name entries with
  | none => .ok none
  | some t => under name (t.toText.map some)

/-- a text of a header given as a list -/
def headerItem (items : List Tree) (i : Nat) : Except Misfit String :=
  match items[i]? with
  | none => .error (.misshapen ("invalid length " ++ toString i ++ ", expected " ++ HeaderTemplate.expectedLength))
  | some t => under ("[" ++ toString i ++ "]") t.toText

/-- a header from a table with its two members, or from a list that begins with its two parts -/
def toHeader (t : Tree) : Except Misfit HeaderTemplate :=
  match t with
  | .table _ es => do
    let name ← headerPart es "key"
    let value ← headerPart es "value"
    match HeaderTemplate.ofParts name value with
    | .ok h => .ok h
    | .error f => .error (.misshapen f.message)
  | .list _ items => do return ⟨← headerItem items 0, ← headerItem items 1⟩
  | t => t.misshapen HeaderTemplate.expected

/-- the headers of a list, the first of them at a position -/
def headersFrom : (position : Nat) → List Tree → Except Misfit (List HeaderTemplate)
  | _, [] => .ok []
  | i, t :: ts => do
    let h ← under ("[" ++ toString i ++ "]") t.toHeader
    return h :: (← headersFrom (i + 1) ts)

/-- a list of headers -/
def toHeaders (t : Tree) : Except Misfit (List HeaderTemplate) :=
  match t with
  | .list _ items => headersFrom 0 items
  | t => t.misshapen "a sequence"

end Tree

/-! ## Settings -/

/-- a value of a kind; of the smallest kind of integer only the low 32 bits are kept -/
def Kind.ofTree : (k : Kind) → Tree → Except Misfit k.Value
  | text, t => t.toText
  | optionalText, t => t.toOptionalText
  | optionalPath, t => t.toOptionalText
  | headers, t => t.toHeaders
  | int64, t => t.toInt.map Int64.ofInt
  | uint64, t => t.toNat.map UInt64.ofNat
  | uint32, t => t.toNat.map UInt32.ofNat

/-- a field that the tree mentions -/
def takeField (t : Tree) (s : Settings) (f : Field) : Except Misfit Settings :=
  match t.entry? f.name with
  | none => .ok s
  | some v => (under f.name (f.kind.ofTree v)).map (s.put f)

/-- the settings that a tree gives -/
def ofTree (t : Tree) : Except Misfit Settings := Field.all.foldlM (takeField t) default

end CommentDigest.Settings
