/-
Field mappings: output names with the paths that fill them, in order, each name once.

- `FieldMapping.ofPairs`: a repeated name keeps its first place and takes the last path
- `FieldMapping.ofValue`, `FieldMapping.parse`: from a JSON object of strings
-/
import CommentDigest.Assoc
import CommentDigest.Json.Reader

namespace CommentDigest

/-- output names with their paths -/
structure FieldMapping where
  fields : List (String × String)
  distinct : (fields.map Prod.fst).Nodup

namespace FieldMapping

def empty : FieldMapping := ⟨[], List.nodup_nil⟩

instance : Inhabited FieldMapping := ⟨empty⟩

/-- one more field -/
def put (m : FieldMapping) (name path : String) : FieldMapping :=
  ⟨Assoc.put (· == ·) name path m.fields, Assoc.nodup_put name path m.fields m.distinct⟩

/-- the fields of a list, one after another -/
def ofPairs (pairs : List (String × String)) : FieldMapping :=
  pairs.foldl (fun m p => m.put p.1 p.2) empty

/-- why a text is no field mapping -/
inductive Flaw where
  | badJson (e : Json.ReadError)
  | notObject (kind : String)
  | notPath (name : String)
  deriving DecidableEq, Repr

/-- the words for a flaw -/
def Flaw.message : Flaw → String
  | badJson e => "invalid field mapping JSON: " ++ e.message
  | notObject kind => "field mapping must be a JSON object, got " ++ kind
  | notPath name => "field mapping entry '" ++ name ++ "' must be a path string"

/-- the kind of a value, in words -/
def kindOf : Json → String
  | .null => "null"
  | .bool _ => "boolean"
  | .number _ => "number"
  | .string _ => "string"
  | .array _ => "array"
  | .object _ => "object"

/-- the members as pairs of strings; the first other value is a flaw -/
def stringPairs : Members → Except Flaw (List (String × String))
  | [] => .ok []
  | (name, v) :: ms =>
    match v.asString? with
    | none => .error (.notPath name)
    | some path => do return (name, path) :: (← stringPairs ms)

/-- a mapping from a JSON value -/
def ofValue : Json → Except Flaw FieldMapping
  | .object ms => do return ofPairs (← stringPairs ms)
  | v => .error (.notObject (kindOf v))

/-- a mapping from JSON text -/
def parse (text : String) : Except Flaw FieldMapping :=
  match Json.parse text with
  | .error e => .error (.badJson e)
  | .ok v => ofValue v

def size (m : FieldMapping) : Nat := m.fields.length

end FieldMapping

end CommentDigest
