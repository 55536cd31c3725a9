/-
Flat records taken out of a listing.

- `Record`: output names with the values found, in mapping order; a path that leads nowhere gives no value
- `Batch.collect`: the records of the array at a path, up to a limit that counts only when it is positive; a listing
  without such an array gives the empty batch
- `Record.toJson`, `Batch.toJson`: a field without value is left out
-/
import CommentDigest.FieldMapping
import CommentDigest.Path

namespace CommentDigest

/-- a flat record -/
structure Record where
  fields : List (String × Option Json)
  deriving DecidableEq, Repr

namespace Record

/-- the values of a mapping's paths in one value -/
def extract (mapping : FieldMapping) (v : Json) : Record :=
  ⟨mapping.fields.map fun f => (f.1, Path.find? v f.2)⟩

/-- the value of a field -/
def get? (r : Record) (name : String) : Option Json :=
  (r.fields.find? fun f => f.1 == name).bind (·.2)

def names (r : Record) : List String := r.fields.map (·.1)

/-- the fields that have a value -/
def present (r : Record) : Members := r.fields.filterMap fun f => f.2.map fun v => (f.1, v)

def toJson (r : Record) : Json := .object r.present

end Record

/-- records and how many values they were taken from -/
structure Batch where
  records : List Record
  processed : Nat
  deriving DecidableEq, Repr

namespace Batch

def empty : Batch := ⟨[], 0⟩

/-- where a listing keeps its records -/
def defaultPath : String := "data.children"

/-- the first values up to a limit; a limit of zero or less takes all -/
def upTo {α : Type} (limit : Int64) (xs : List α) : List α :=
  if 0 < limit.toInt then xs.take limit.toInt.toNat else xs

/-- the records of the array at a path -/
def collect (listing : Json) (path : String) (mapping : FieldMapping) (limit : Int64) : Batch :=
  match Path.find? listing path with
  | some (.array xs) =>
    let records := (upTo limit xs).map (Record.extract mapping)
    ⟨records, records.length⟩
  | _ => empty

/-- the records as a JSON array -/
def recordsJson (records : List Record) : Json := .array (records.map Record.toJson)

def toJson (b : Batch) : Json :=
  .object [("records", recordsJson b.records), ("processed_count", .number (.int b.processed))]

end Batch

end CommentDigest
