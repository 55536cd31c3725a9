/-
Reading JSON where a value of a known type belongs.

Two readers with the same rules: `Read.text`, `Read.integer`, ... from a text at a place, and `Decode.text`,
`Decode.integer`, ... from a value. A value of another type is a fault that names what was found and what was expected.
-/
import CommentDigest.Json.Printer
import CommentDigest.Json.Skip
import CommentDigest.Text.Quoted

namespace CommentDigest.Json

/-! ## Words -/

/-- a value in the words of a fault -/
def describe : Json → String
  | .null => "null"
  | .bool true => "boolean `true`"
  | .bool false => "boolean `false`"
  | .number (.int n) => "integer `" ++ String.ofList (intText n) ++ "`"
  | .number (.float x) => "floating point `" ++ x.dataText ++ "`"
  | .string s => "string " ++ quoted s
  | .array _ => "sequence"
  | .object _ => "map"

/-- a value of another type than the expected one -/
def wrongType (found : Json) (expected : String) : Fault :=
  .wrongValue ("invalid type: " ++ describe found ++ ", expected " ++ expected)

/-- an integer out of the range of the expected type -/
def outOfRange (n : Int) (expected : String) : Fault :=
  .wrongValue ("invalid value: " ++ describe (.number (.int n)) ++ ", expected " ++ expected)

def missingField (name : String) : Fault := .wrongValue ("missing field `" ++ name ++ "`")

def duplicateField (name : String) : Fault := .wrongValue ("duplicate field `" ++ name ++ "`")

def badLength (n : Nat) (expected : String) : Fault :=
  .wrongValue ("invalid length " ++ toString n ++ ", expected " ++ expected)

/-- a range of integers and its name -/
structure IntRange where
  low : Int
  high : Int
  name : String
  deriving DecidableEq, Repr

/-- a number as an integer of a range -/
def IntRange.of (range : IntRange) : Number → Except Fault Int
  | .int n => if range.low ≤ n ∧ n ≤ range.high then .ok n else .error (outOfRange n range.name)
  | .float x => .error (wrongType (.number (.float x)) range.name)

/-! ## From text -/

namespace Read

/-- a fault behind what was read -/
def place {α : Type} (rest : List Char) : Except Fault α → Except Stop (α × List Char)
  | .ok a => .ok (a, rest)
  | .error f => stopAt f rest

/-- the fault of a text that does not hold the expected type; a scalar is read first -/
def mismatch {α : Type} (expected : String) (cs : List Char) : Except Stop α :=
  match cs with
  | [] => stopOn .noValue []
  | c :: r =>
    if c = '[' then stopAt (wrongType (.array []) expected) cs
    else if c = '{' then stopAt (wrongType (.object []) expected) cs
    else do
      let (v, rest) ← value 0 (c :: r)
      stopAt (wrongType v expected) rest

/-- a string -/
def text (expected : String) (cs : List Char) : Except Stop (String × List Char) :=
  match skipBlanks cs with
  | [] => stopAt .endInValue []
  | '"' :: r => do
    let (s, r) ← stringBody r
    return (String.ofList s, r)
  | r => mismatch expected r

/-- a string or null -/
def optionalText (expected : String) (cs : List Char) : Except Stop (Option String × List Char) :=
  match skipBlanks cs with
  | 'n' :: r => do return (none, ← word ['u', 'l', 'l'] r)
  | r => do
    let (s, r) ← text expected r
    return (some s, r)

/-- an integer of a range -/
def integer (range : IntRange) (cs : List Char) : Except Stop (Int × List Char) :=
  match skipBlanks cs with
  | [] => stopAt .endInValue []
  | c :: r =>
    if c = '-' then do
      let (n, r) ← number false r
      place r (range.of n)
    else if c.isDigit then do
      let (n, r) ← number true (c :: r)
      place r (range.of n)
    else mismatch range.name (c :: r)

/-- an array -/
def list {α : Type} (one : List Char → Except Stop (α × List Char)) (cs : List Char) :
    Except Stop (List α × List Char) :=
  match skipBlanks cs with
  | [] => stopAt .endInValue []
  | '[' :: r => items one ('[' :: r) true r
  | r => mismatch "a sequence" r

/-- the text behind the end of an object that is being left with a fault -/
def afterBrace (cs : List Char) : List Char :=
  match skipBlanks cs with
  | '}' :: r => r
  | r => r

/-- the bracket behind the last wanted value of an array -/
def endList (cs : List Char) : Except Stop (List Char) :=
  match skipBlanks cs with
  | [] => stopAt .endInList []
  | ']' :: r => .ok r
  | ',' :: r =>
    match skipBlanks r with
    | ']' :: r => stopOn .trailingComma (']' :: r)
    | r => stopOn .trailingText r
  | r => stopOn .trailingText r

end Read

/-! ## From values -/

namespace Decode

def text (expected : String) : Json → Except Fault String
  | .string s => .ok s
  | v => .error (wrongType v expected)

def optionalText (expected : String) : Json → Except Fault (Option String)
  | .null => .ok none
  | v => (text expected v).map some

def integer (range : IntRange) : Json → Except Fault Int
  | .number n => range.of n
  | v => .error (wrongType v range.name)

def list {α : Type} (one : Json → Except Fault α) : Json → Except Fault (List α)
  | .array xs => xs.mapM one
  | v => .error (wrongType v "a sequence")

end Decode

end CommentDigest.Json
