/-
Settings as their sources give them, before they have types.

A `Tree` remembers for every leaf and list which source gave it. A source is a `Layer`, a list of keys and values; a key
is a path into the tree (`KeyPath`), and a later layer is written over an earlier one.

- `KeyPath.ofText`: names with points and indices in brackets; a text that is no path is one name
- `Tree.put`: a value under a name. A table is merged into what is there, name by name; every other value replaces it
- `Tree.set`: a value at a path. What stands in the way is replaced by a table or a list
- `Tree.ofLayers`: all layers, one over another
-/
import CommentDigest.Binary64.Text
import CommentDigest.Json.Value

namespace CommentDigest.Settings

/-! ## Trees -/

/-- a value without parts -/
inductive Leaf where
  | nothing
  | bool (b : Bool)
  /-- within 64 bits -/
  | int (n : Int)
  | float (x : Binary64)
  | text (s : String)
  deriving DecidableEq, Repr, Inhabited

/-- a value with the name of the source it came from, if it has one -/
inductive Tree where
  | leaf (origin : Option String) (v : Leaf)
  | list (origin : Option String) (items : List Tree)
  | table (origin : Option String) (entries : List (String × Tree))
  deriving Repr

/-- the names of a source with their values, in order -/
abbrev Layer := List (String × Tree)

namespace Tree

/-- nothing, from nowhere -/
def absent : Tree := .leaf none .nothing

/-- a table without entries, from nowhere -/
def empty : Tree := .table none []

instance : Inhabited Tree := ⟨absent⟩

mutual
/-- a JSON value from a source; an integer of more than 64 bits with sign becomes a float -/
def ofJson (origin : Option String) : Json → Tree
  | .null => .leaf origin .nothing
  | .bool b => .leaf origin (.bool b)
  | .number (.int n) => .leaf origin (if n < twoTo 63 then .int n else .float (.ofNat n.toNat))
  | .number (.float x) => .leaf origin (.float x)
  | .string s => .leaf origin (.text s)
  | .array xs => .list origin (ofItems origin xs)
  | .object ms => .table origin (ofMembers origin ms)

def ofItems (origin : Option String) : List Json → List Tree
  | [] => []
  | x :: xs => ofJson origin x :: ofItems origin xs

def ofMembers (origin : Option String) : List (String × Json) → List (String × Tree)
  | [] => []
  | (k, v) :: ms => (k, ofJson origin v) :: ofMembers origin ms
end

/-! ## Parts -/

/-- the entries of a table; nothing else has any -/
def entries : Tree → List (String × Tree)
  | .table _ es => es
  | _ => []

/-- the items of a list; nothing else has any -/
def items : Tree → List Tree
  | .list _ ts => ts
  | _ => []

/-- the value under a name -/
def entry? (t : Tree) (name : String) : Option Tree := Assoc.find? (· == ·) name t.entries

/-- the tree with a value under a name; what is no table becomes one -/
def withEntry (t : Tree) (name : String) (v : Tree) : Tree :=
  match t with
  | .table origin es => .table origin (Assoc.put (· == ·) name v es)
  | _ => .table none [(name, v)]

/-- the place of an index in a list; a negative one counts from the end -/
def position (index : Int) (length : Nat) : Nat := if 0 ≤ index then index.toNat else length - index.natAbs

/-- the tree with the item of an index changed; what is no list becomes one, and a short list is filled up -/
def modifyItem (t : Tree) (index : Int) (f : Tree → Tree) : Tree :=
  let i := position index t.items.length
  let filled := (t.items ++ List.replicate (i + 1 - t.items.length) absent).modify i f
  match t with
  | .list origin _ => .list origin filled
  | _ => .list none filled

/-! ## Writing -/

mutual
/-- a value under a name: a table is merged into what is there, everything else replaces it -/
def put (name : String) : (v here : Tree) → Tree
  | .table _ es, here => here.withEntry name (putAll es ((here.entry? name).getD empty))
  | .leaf o v, here => here.withEntry name (.leaf o v)
  | .list o ts, here => here.withEntry name (.list o ts)

/-- entries put one after another -/
def putAll : (es : List (String × Tree)) → (here : Tree) → Tree
  | [], here => here
  | (k, v) :: es, here => putAll es (put k v here)
end

end Tree

/-- a step into a tree -/
inductive KeyStep where
  | name (s : String)
  | index (n : Int)
  deriving DecidableEq, Repr

/-- where a value belongs, from the outside in -/
abbrev KeyPath := List KeyStep

/-- a value at a path -/
def Tree.set : KeyPath → (v here : Tree) → Tree
  | [], v, _ => v
  | [.name k], v, here => put k v here
  | .name k :: path, v, here => here.withEntry k (set path v ((here.entry? k).getD absent))
  | .index n :: path, v, here => here.modifyItem n (set path v)

namespace KeyPath

/-! ## Reading keys -/

/-- the characters of a name in a path -/
def isNameChar (c : Char) : Bool := c.isAlphanum || c = ' ' || c = '_' || c = '-'

/-- an index between blanks, up to the bracket -/
def index? (cs : List Char) : Option (Int × List Char) :=
  let isGap := fun (c : Char) => c = ' ' || c = '\t'
  let (negative, ds) := match cs.dropWhile isGap with
    | '-' :: r => (true, r)
    | r => (false, r)
  let digits := ds.takeWhile Char.isDigit
  let n : Int := if negative then -(Digits.value digits : Int) else Digits.value digits
  match (ds.dropWhile Char.isDigit).dropWhile isGap with
  | ']' :: r => if digits ≠ [] ∧ IsInt64 n then some (n, r) else none
  | _ => none

/-- the steps behind the first name; `fuel` bounds their number -/
def steps? : (fuel : Nat) → List Char → Option KeyPath
  | _, [] => some []
  | 0, _ :: _ => none
  | fuel + 1, '.' :: r =>
    let name := r.takeWhile isNameChar
    if name = [] then none
    else (steps? fuel (r.dropWhile isNameChar)).map (.name (String.ofList name) :: ·)
  | fuel + 1, '[' :: r =>
    match index? r with
    | none => none
    | some (n, r) => (steps? fuel r).map (.index n :: ·)
  | _ + 1, _ :: _ => none

/-- the path that a key spells out -/
def ofText (key : String) : KeyPath :=
  let cs := key.toList
  let name := cs.takeWhile isNameChar
  if name = [] then [.name key]
  else
    match steps? cs.length (cs.dropWhile isNameChar) with
    | some steps => .name (String.ofList name) :: steps
    | none => [.name key]

end KeyPath

/-! ## Layers -/

/-- a layer written over a tree -/
def Tree.over (t : Tree) (layer : Layer) : Tree := layer.foldl (fun t e => Tree.set (KeyPath.ofText e.1) e.2 t) t

/-- all layers, the last one on top -/
def Tree.ofLayers (layers : List Layer) : Tree := layers.foldl Tree.over Tree.empty

end CommentDigest.Settings
