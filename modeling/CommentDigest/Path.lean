/-
Paths into JSON trees.

A path is segments with dots between them. A segment is a key, or a key of letters, digits and underscores with an index
in brackets behind it; such a segment is two steps. A step into an object looks its name up, a step into an array reads
it as a position of 64 bits, and nothing else has children.

- `Path.segments`, `Path.steps`: the steps of a path
- `Path.child?`: one step
- `Path.find?`: all steps
-/
import CommentDigest.Json.Value
import CommentDigest.Text.Digits

namespace CommentDigest.Path

/-! ## Reading a path -/

/-- the parts of a text between its dots -/
def segments : List Char → List (List Char)
  | [] => [[]]
  | c :: cs =>
    if c = '.' then [] :: segments cs
    else
      match segments cs with
      | s :: ss => (c :: s) :: ss
      | [] => [[c]]

/-- a letter of the Latin alphabet without marks, a digit or an underscore -/
def isWordChar (c : Char) : Bool := c.isAlphanum || c == '_'

/-- the digits between brackets, when the text is nothing else -/
def bracketed? : List Char → Option (List Char)
  | '[' :: r =>
    let ds := r.takeWhile Char.isDigit
    if ds ≠ [] ∧ r.dropWhile Char.isDigit = [']'] then some ds else none
  | _ => none

/-- the key and the index of a segment with brackets -/
def indexed? (segment : List Char) : Option (List Char × List Char) :=
  let key := segment.takeWhile isWordChar
  if key = [] then none
  else (bracketed? (segment.dropWhile isWordChar)).map fun ds => (key, ds)

/-- the steps of one segment -/
def segmentSteps (segment : List Char) : List (List Char) :=
  match indexed? segment with
  | some (key, ds) => [key, ds]
  | none => [segment]

/-- the steps of a path -/
def steps (path : List Char) : List (List Char) := (segments path).flatMap segmentSteps

/-! ## Walking -/

/-- one step: an object by name, an array by a position that is a word -/
def child? (v : Json) (step : List Char) : Option Json :=
  match v with
  | .object ms => Members.get? ms (String.ofList step)
  | .array xs => (Digits.word? step).bind fun i => xs[i.toNat]?
  | _ => none

/-- several steps; the first one that leads nowhere ends the walk -/
def walk (v : Json) : List (List Char) → Option Json
  | [] => some v
  | s :: ss => (child? v s).bind fun w => walk w ss

/-- the value at a path -/
def find? (v : Json) (path : String) : Option Json := walk v (steps path.toList)

end CommentDigest.Path
