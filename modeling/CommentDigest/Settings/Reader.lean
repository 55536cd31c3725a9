/-
Reading settings from JSON text.

The text is an object of fields in any order, unknown members being read over, or an array of the fields' values in
order. A field that is not there takes its default; a field that is there twice is a fault.
-/
import CommentDigest.Settings.Json

namespace CommentDigest

open Json Json.Read

/-! ## Headers -/

namespace HeaderTemplate

/-- the members of a header from behind the brace; `fuel` bounds their number -/
def readMembers : (fuel : Nat) → (first : Bool) → (name value : Option String) → List Char →
    Except Stop (HeaderTemplate × List Char)
  | 0, _, _, _, cs => stopAt .endInObject cs
  | fuel + 1, first, name, value, cs => do
    match ← nextName first cs with
    | .close r => place r (ofParts name value)
    | .more r =>
      let (k, r) ← stringBody r
      if k = "key".toList then
        if name.isSome then stopAt (duplicateField "key") (afterBrace r)
        else
          let r ← colon r
          let (s, r) ← text "a string" r
          readMembers fuel false (some s) value r
      else if k = "value".toList then
        if value.isSome then stopAt (duplicateField "value") (afterBrace r)
        else
          let r ← colon r
          let (s, r) ← text "a string" r
          readMembers fuel false name (some s) r
      else
        let r ← colon r
        let r ← skipValue r
        readMembers fuel false name value r

/-- a header from the two values of an array, from behind the bracket -/
def readItems (cs : List Char) : Except Stop (HeaderTemplate × List Char) := do
  match ← nextItem true cs with
  | .close r => stopAt (badLength 0 expectedLength) r
  | .more r =>
    let (k, r) ← text "a string" r
    match ← nextItem false r with
    | .close r => stopAt (badLength 1 expectedLength) r
    | .more r =>
      let (v, r) ← text "a string" r
      let r ← endList r
      return (⟨k, v⟩, r)

/-- a header -/
def read (cs : List Char) : Except Stop (HeaderTemplate × List Char) :=
  match skipBlanks cs with
  | [] => stopAt .endInValue []
  | '[' :: r => readItems r
  | '{' :: r => readMembers (r.length + 1) true none none r
  | r => mismatch expected r

end HeaderTemplate

/-! ## Settings -/

namespace Settings

/-- a value of a kind -/
def Kind.read : (k : Kind) → List Char → Except Stop (k.Value × List Char)
  | text, cs => Read.text "a string" cs
  | optionalText, cs => Read.optionalText "a string" cs
  | optionalPath, cs => Read.optionalText "path string" cs
  | headers, cs => Read.list HeaderTemplate.read cs
  | int64, cs => do
    let (n, r) ← integer int64Range cs
    return (Int64.ofInt n, r)
  | uint64, cs => do
    let (n, r) ← integer uint64Range cs
    return (UInt64.ofNat n.toNat, r)
  | uint32, cs => do
    let (n, r) ← integer uint32Range cs
    return (UInt32.ofNat n.toNat, r)

/-- the members of settings from behind the brace; `seen` are the fields read so far, `fuel` bounds their number -/
def readMembers : (fuel : Nat) → (first : Bool) → (seen : List Field) → Settings → List Char →
    Except Stop (Settings × List Char)
  | 0, _, _, _, cs => stopAt .endInObject cs
  | fuel + 1, first, seen, s, cs => do
    match ← nextName first cs with
    | .close r => return (s, r)
    | .more r =>
      let (k, r) ← stringBody r
      match Field.ofName? (String.ofList k) with
      | none =>
        let r ← colon r
        let r ← skipValue r
        readMembers fuel false seen s r
      | some f =>
        if f ∈ seen then stopAt (duplicateField f.name) (afterBrace r)
        else
          let r ← colon r
          let (v, r) ← f.kind.read r
          readMembers fuel false (f :: seen) (s.put f v) r

/-- the values of the fields of a list, from behind the bracket or a value -/
def readItems : (first : Bool) → List Field → Settings → List Char → Except Stop (Settings × List Char)
  | _, [], s, cs => do
    let r ← endList cs
    return (s, r)
  | first, f :: fs, s, cs => do
    match ← nextItem first cs with
    | .close r => return (s, r)
    | .more r =>
      let (v, r) ← f.kind.read r
      readItems false fs (s.put f v) r

/-- settings at a place -/
def read (cs : List Char) : Except Stop (Settings × List Char) :=
  match skipBlanks cs with
  | [] => stopAt .endInValue []
  | '[' :: r => readItems true Field.all default r
  | '{' :: r => readMembers (r.length + 1) true [] default r
  | r => mismatch expected r

/-- settings from a document -/
def parse (text : String) : Except ReadError Settings :=
  let result := do
    let (s, r) ← read text.toList
    atEnd r
    return s
  match result with
  | .ok s => .ok s
  | .error stop => .error (stop.error text.toList)

end Settings

end CommentDigest
