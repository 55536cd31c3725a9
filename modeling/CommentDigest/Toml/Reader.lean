/-
Documents of keys and values under table headers.

- `value`: a value, arrays and inline tables included
- `Toml.parse`: a document as one object; `none` when it is not in the format. A key may be given once, a header once, and
  a header in double brackets once more for every further table of its array.
-/
import CommentDigest.Toml.Scan

namespace CommentDigest.Toml

/-! ## Tables while they are being read -/

/-- what a name of a table stands for while the document is being read -/
inductive Entry where
  /-- a finished value -/
  | leaf (v : Json)
  /-- a table; `dotted` when it came from points in a key, `opened` when it had a header of its own -/
  | table (dotted opened : Bool) (entries : List (String × Entry))
  /-- tables under one name in double brackets, last one first -/
  | tables (all : List (List (String × Entry)))
  deriving Inhabited

/-- the names of a table, in order -/
abbrev Entries := List (String × Entry)

mutual
def Entry.toJson : Entry → Json
  | .leaf v => v
  | .table _ _ es => .object (entriesJson es)
  | .tables ts => .array (tablesJson ts)

def entriesJson : List (String × Entry) → List (String × Json)
  | [] => []
  | (k, e) :: es => (k, e.toJson) :: entriesJson es

def tablesJson : List (List (String × Entry)) → List Json
  | [] => []
  | t :: ts => tablesJson ts ++ [.object (entriesJson t)]
end

def find? (es : Entries) (k : String) : Option Entry := Assoc.find? (· == ·) k es

def set (es : Entries) (k : String) (e : Entry) : Entries := Assoc.put (· == ·) k e es

/-- a value under a key with points -/
def addKey : List String → Json → Entries → Option Entries
  | [], _, _ => none
  | [k], v, es =>
    match find? es k with
    | some _ => none
    | none => some (set es k (.leaf v))
  | k :: ks, v, es =>
    match find? es k with
    | none => do return set es k (.table true true (← addKey ks v []))
    | some (.table true o inner) => do return set es k (.table true o (← addKey ks v inner))
    | some _ => none

/-- something done to the table at a place; tables on the way are made, of several the last one is meant -/
def atTable (act : Entries → Option Entries) : List String → Entries → Option Entries
  | [], es => act es
  | k :: ks, es =>
    match find? es k with
    | none => do return set es k (.table false false (← atTable act ks []))
    | some (.table d o inner) => do return set es k (.table d o (← atTable act ks inner))
    | some (.tables (t :: ts)) => do return set es k (.tables ((← atTable act ks t) :: ts))
    | some _ => none

/-- a header: its table is there from now on -/
def openTable (k : String) (es : Entries) : Option Entries :=
  match find? es k with
  | none => some (set es k (.table false true []))
  | some (.table false false inner) => some (set es k (.table false true inner))
  | some _ => none

/-- a header in double brackets: one more table under its name -/
def pushTable (k : String) (es : Entries) : Option Entries :=
  match find? es k with
  | none => some (set es k (.tables [[]]))
  | some (.tables ts) => some (set es k (.tables ([] :: ts)))
  | some _ => none

/-! ## Values -/

mutual
/-- one value -/
def value : (fuel : Nat) → List Char → Option (Json × List Char)
  | 0, _ => none
  | _, [] => none
  | fuel + 1, c :: r =>
    match quoteEscapes? c with
    | some escapes => do
      let ((s, _), r) ← stringFrom c escapes r
      return (.string (String.ofList s), r)
    | none =>
      if c = '[' then do
        let (vs, r) ← items fuel r
        return (.array vs, r)
      else if c = '{' then
        match skipSpaces r with
        | '}' :: r => some (.object [], r)
        | r => do
          let (es, r) ← pairs fuel [] r
          return (.object (entriesJson es), r)
      else if c = '+' then number (r.takeWhile isKeyChar) (r.dropWhile isKeyChar)
      else wordValue ((c :: r).takeWhile isKeyChar) ((c :: r).dropWhile isKeyChar)

/-- the values of an array from behind its bracket or a comma -/
def items : (fuel : Nat) → List Char → Option (List Json × List Char)
  | 0, _ => none
  | fuel + 1, cs =>
    match skipLines cs.length cs with
    | ']' :: r => some ([], r)
    | r => do
      let (v, r) ← value fuel r
      match skipLines r.length r with
      | ']' :: r => return ([v], r)
      | ',' :: r => do
        let (vs, r) ← items fuel r
        return (v :: vs, r)
      | _ => none

/-- the pairs of an inline table from behind its brace or a comma -/
def pairs : (fuel : Nat) → Entries → List Char → Option (Entries × List Char)
  | 0, _, _ => none
  | fuel + 1, es, cs => do
    let (k, r) ← key (cs.length + 1) cs
    let r ← exactly '=' (skipSpaces r)
    let (v, r) ← value fuel (skipSpaces r)
    let es ← addKey k v es
    match skipSpaces r with
    | '}' :: r => return (es, r)
    | ',' :: r => pairs fuel es (skipSpaces r)
    | _ => none
end

/-! ## Documents -/

/-- a header: is it in double brackets, its key, and the text behind its line -/
def header (cs : List Char) : Option ((Bool × List String) × List Char) := do
  let (double, r) := match cs with
    | '[' :: r => (true, r)
    | r => (false, r)
  let (k, r) ← key (r.length + 1) (skipSpaces r)
  let r ← exactly ']' r
  let r ← if double then exactly ']' r else some r
  return ((double, k), ← endLine r)

/-- the lines of a document; `place` is the header above them -/
def document : (fuel : Nat) → (place : List String) → Entries → List Char → Option Entries
  | 0, _, _, _ => none
  | fuel + 1, place, es, cs =>
    match skipLines cs.length cs with
    | [] => some es
    | '[' :: r => do
      let ((double, k), r) ← header r
      let act := if double then pushTable else openTable
      let es ← atTable (act (k.getLastD "")) k.dropLast es
      document fuel k es r
    | r => do
      let (k, r) ← key (r.length + 1) r
      let r ← exactly '=' r
      let (v, r) ← value (2 * r.length + 2) (skipSpaces r)
      let r ← endLine r
      let es ← atTable (addKey k v) place es
      document fuel place es r

/-- a document as one object -/
def parse (text : String) : Option Json := do
  let cs := foldLines text.toList
  let cs := if cs.head? = some (Char.ofNat 0xFEFF) then cs.drop 1 else cs
  return .object (entriesJson (← document (cs.length + 1) [] [] cs))

end CommentDigest.Toml
