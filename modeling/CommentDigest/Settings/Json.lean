/-
Settings as JSON.

- `Settings.toJson`: an object of all fields in order
- `Settings.decode`: from a value; a field that is not there takes its default, an unknown member counts for nothing
- `Settings.overlay`: the settings of a preset with some members replaced
-/
import CommentDigest.Json.Typed
import CommentDigest.Settings.Field

namespace CommentDigest

/-! ## Writing -/

namespace HeaderTemplate

def toJson (h : HeaderTemplate) : Json := .object [("key", .string h.name), ("value", .string h.value)]

end HeaderTemplate

namespace Settings

def optionJson : Option String → Json
  | none => .null
  | some s => .string s

/-- a value as JSON -/
def Kind.toJson : (k : Kind) → k.Value → Json
  | text, s => .string s
  | optionalText, s => optionJson s
  | optionalPath, s => optionJson s
  | headers, hs => .array (hs.map HeaderTemplate.toJson)
  | int64, n => .number (.int n.toInt)
  | uint64, n => .number (.int n.toNat)
  | uint32, n => .number (.int n.toNat)

/-- settings as a JSON object -/
def toJson (s : Settings) : Json := .object (Field.all.map fun f => (f.name, f.kind.toJson (s.get f)))

end Settings

/-! ## Reading -/

namespace Json

def int64Range : IntRange := ⟨-(twoTo 63 : Int), (twoTo 63 : Int) - 1, "i64"⟩

def uint64Range : IntRange := ⟨0, (twoTo 64 : Int) - 1, "u64"⟩

def uint32Range : IntRange := ⟨0, (twoTo 32 : Int) - 1, "u32"⟩

end Json

namespace HeaderTemplate

open Json

/-- how a header is called in a fault -/
def expected : String := "struct RequestHeader"

def expectedLength : String := "struct RequestHeader with 2 elements"

/-- name and value when both are there -/
def ofParts (name value : Option String) : Except Fault HeaderTemplate :=
  match name, value with
  | none, _ => .error (missingField "key")
  | some _, none => .error (missingField "value")
  | some k, some v => .ok ⟨k, v⟩

/-- the two parts of a header among the members of an object -/
def decodeMembers (name value : Option String) : Members → Except Fault HeaderTemplate
  | [] => ofParts name value
  | (k, v) :: ms =>
    if k = "key" then do decodeMembers (some (← Decode.text "a string" v)) value ms
    else if k = "value" then do decodeMembers name (some (← Decode.text "a string" v)) ms
    else decodeMembers name value ms

/-- a header from an object, or from an array of its two parts -/
def decode : Json → Except Fault HeaderTemplate
  | .object ms => decodeMembers none none ms
  | .array [] => .error (badLength 0 expectedLength)
  | .array (k :: r) => do
    let k ← Decode.text "a string" k
    match r with
    | [] => .error (badLength 1 expectedLength)
    | v :: rest =>
      let v ← Decode.text "a string" v
      if rest = [] then return ⟨k, v⟩ else .error (badLength (rest.length + 2) "fewer elements in array")
  | v => .error (wrongType v expected)

end HeaderTemplate

namespace Settings

open Json

/-- a value of a kind -/
def Kind.decode : (k : Kind) → Json → Except Fault k.Value
  | text, v => Decode.text "a string" v
  | optionalText, v => Decode.optionalText "a string" v
  | optionalPath, v => Decode.optionalText "path string" v
  | headers, v => Decode.list HeaderTemplate.decode v
  | int64, v => (Decode.integer int64Range v).map Int64.ofInt
  | uint64, v => (Decode.integer uint64Range v).map fun n => UInt64.ofNat n.toNat
  | uint32, v => (Decode.integer uint32Range v).map fun n => UInt32.ofNat n.toNat

/-- how settings are called in a fault -/
def expected : String := "struct AppConfig"

/-- the known members put into settings, one after another -/
def decodeMembers (s : Settings) : Members → Except Fault Settings
  | [] => .ok s
  | (k, v) :: ms =>
    match Field.ofName? k with
    | none => decodeMembers s ms
    | some f => do decodeMembers (s.put f (← f.kind.decode v)) ms

/-- settings from an object -/
def decode : Json → Except Fault Settings
  | .object ms => decodeMembers default ms
  | v => .error (wrongType v expected)

/-- the settings of a preset with the members of an object in the place of its own -/
def overlay (p : Preset) (changes : Members) : Except Fault Settings :=
  match (ofPreset p).toJson with
  | .object ms => decode (.object (changes.foldl (fun ms c => Members.insert ms c.1 c.2) ms))
  | v => decode v

end Settings

end CommentDigest
