/-
Reading JSON text.

- `value`: one value, with a number of levels that arrays and objects may still open
- `parse`: a whole document; at most 127 levels, and nothing but blanks behind the value
-/
import CommentDigest.Json.Scan

namespace CommentDigest.Json.Read

/-- how many levels a document may open -/
def maxLevels : Nat := 127

/-- what comes next inside an array or object: its end and the text behind it, or one more part and where it starts -/
inductive Next where
  | close (rest : List Char)
  | more (rest : List Char)
  deriving DecidableEq, Repr

/-- what comes next inside an array -/
def nextItem (first : Bool) (cs : List Char) : Except Stop Next :=
  match skipBlanks cs with
  | [] => stopAt .endInList []
  | ']' :: r => .ok (.close r)
  | c :: r =>
    if first then .ok (.more (c :: r))
    else if c = ',' then
      match skipBlanks r with
      | [] => stopAt .endInValue []
      | ']' :: r => stopOn .trailingComma (']' :: r)
      | r => .ok (.more r)
    else stopOn .noListEnd (c :: r)

/-- what comes next inside an object; a name starts behind its quote -/
def nextName (first : Bool) (cs : List Char) : Except Stop Next :=
  match skipBlanks cs with
  | [] => stopAt .endInObject []
  | '}' :: r => .ok (.close r)
  | c :: r =>
    if first then
      if c = '"' then .ok (.more r) else stopOn .keyNotString (c :: r)
    else if c = ',' then
      match skipBlanks r with
      | [] => stopAt .endInValue []
      | '"' :: r => .ok (.more r)
      | '}' :: r => stopOn .trailingComma ('}' :: r)
      | r => stopOn .keyNotString r
    else stopOn .noObjectEnd (c :: r)

/-- the colon behind a name -/
def colon (cs : List Char) : Except Stop (List Char) :=
  match skipBlanks cs with
  | [] => stopAt .endInObject []
  | ':' :: r => .ok r
  | r => stopOn .noColon r

/-- a name, from behind its quote, and the text behind its colon -/
def name (cs : List Char) : Except Stop (String × List Char) := do
  let (k, r) ← stringBody cs
  let r ← colon r
  return (String.ofList k, r)

/-- the values of an array from behind its bracket; their number is bounded by a text that is longer than theirs -/
def items {α : Type} (one : List Char → Except Stop (α × List Char)) :
    (bound : List Char) → (first : Bool) → List Char → Except Stop (List α × List Char)
  | [], _, cs => stopAt .endInList cs
  | _ :: bound, first, cs => do
    match ← nextItem first cs with
    | .close r => return ([], r)
    | .more r =>
      let (v, r) ← one r
      let (vs, r) ← items one bound false r
      return (v :: vs, r)

/-- the members of an object from behind its brace; their number is bounded by a text that is longer than theirs -/
def members (one : List Char → Except Stop (Json × List Char)) :
    (bound : List Char) → (first : Bool) → List Char → Except Stop (List (String × Json) × List Char)
  | [], _, cs => stopAt .endInObject cs
  | _ :: bound, first, cs => do
    match ← nextName first cs with
    | .close r => return ([], r)
    | .more r =>
      let (k, r) ← name r
      let (v, r) ← one r
      let (ms, r) ← members one bound false r
      return ((k, v) :: ms, r)

/-- one value; `levels` is how many arrays and objects may still be opened inside each other -/
def value (levels : Nat) (cs : List Char) : Except Stop (Json × List Char) :=
  match skipBlanks cs with
  | [] => stopAt .endInValue []
  | c :: r =>
    if c = 'n' then do return (.null, ← word ['u', 'l', 'l'] r)
    else if c = 't' then do return (.bool true, ← word ['r', 'u', 'e'] r)
    else if c = 'f' then do return (.bool false, ← word ['a', 'l', 's', 'e'] r)
    else if c = '-' then do
      let (n, r) ← number false r
      return (.number n, r)
    else if c.isDigit then do
      let (n, r) ← number true (c :: r)
      return (.number n, r)
    else if c = '"' then do
      let (s, r) ← stringBody r
      return (.string (String.ofList s), r)
    else if c = '[' then
      match levels with
      | 0 => stopOn .tooDeep (c :: r)
      | levels + 1 => do
        let (vs, r) ← items (value levels) (c :: r) true r
        return (.array vs, r)
    else if c = '{' then
      match levels with
      | 0 => stopOn .tooDeep (c :: r)
      | levels + 1 => do
        let (ms, r) ← members (value levels) (c :: r) true r
        return (.object (Members.ofList ms), r)
    else stopOn .noValue (c :: r)

/-- nothing but blanks up to the end -/
def atEnd (cs : List Char) : Except Stop Unit :=
  match skipBlanks cs with
  | [] => .ok ()
  | r => stopOn .trailingText r

/-- a document -/
def document (cs : List Char) : Except Stop Json := do
  let (v, r) ← value maxLevels cs
  atEnd r
  return v

end CommentDigest.Json.Read

namespace CommentDigest.Json

/-- a document, with the place of what is wrong -/
def parse (text : String) : Except ReadError Json :=
  match Read.document text.toList with
  | .ok v => .ok v
  | .error s => .error (s.error text.toList)

end CommentDigest.Json
