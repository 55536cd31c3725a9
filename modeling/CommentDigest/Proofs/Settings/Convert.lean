/-
What fields take from values.

A value of a field that is written as JSON and kept in a tree is read back as itself; only a number that a signed
integer of 64 bits cannot hold is lost. A list of headers is taken header by header.

- `ofTree_ofJson`: values there and back
- `toHeaders_eq_ok_iff`: lists of headers
- `ofTree_presetTree`: the values of a preset
-/
import CommentDigest.Proofs.Settings.Layers
import Mathlib.Data.List.Forall2

namespace CommentDigest.Settings

/-! ## Headers -/

namespace Tree

theorem toHeader_ofJson (origin : Option String) (h : HeaderTemplate) : (ofJson origin h.toJson).toHeader = .ok h := rfl

/-- headers are taken one by one -/
theorem headersFrom_eq_ok_iff (position : Nat) (items : List Tree) (hs : List HeaderTemplate) :
    headersFrom position items = .ok hs ↔ List.Forall₂ (fun t h => t.toHeader = .ok h) items hs := by
  induction items generalizing position hs with
  | nil =>
    rw [headersFrom, List.forall₂_nil_left_iff, Except.ok.injEq]
    exact eq_comm
  | cons t items ih =>
    rw [headersFrom]
    constructor
    · intro h
      cases hhead : t.toHeader with
      | error m => rw [hhead] at h; cases h
      | ok first =>
        cases htail : headersFrom (position + 1) items with
        | error m => rw [hhead, htail] at h; cases h
        | ok rest =>
          rw [hhead, htail] at h
          obtain rfl : first :: rest = hs := Except.ok.inj h
          exact .cons hhead ((ih (position + 1) rest).1 htail)
    · intro h
      cases h with
      | cons hhead htail =>
        rw [hhead, (ih (position + 1) _).2 htail]
        rfl

theorem toHeaders_eq_ok_iff (origin : Option String) (items : List Tree) (hs : List HeaderTemplate) :
    ( toHeaders (.list origin items)) = .ok hs ↔ List.Forall₂ (fun t h => t.toHeader = .ok h) items hs :=
  headersFrom_eq_ok_iff 0 items hs

theorem toHeaders_ofJson (origin : Option String) (hs : List HeaderTemplate) :
    (ofJson origin (.array (hs.map HeaderTemplate.toJson))).toHeaders = .ok hs := by
  rw [ofJson, ofItems_eq_map, List.map_map, toHeaders_eq_ok_iff, List.forall₂_map_left_iff]
  exact List.forall₂_same.2 fun h _ => toHeader_ofJson origin h

/-! ## Numbers -/

theorem ofJson_int (origin : Option String) {n : Int} (h : n < twoTo 63) :
    ofJson origin (.number (.int n)) = .leaf origin (.int n) := by
  rw [ofJson, if_pos h]

theorem toNat_ofJson (origin : Option String) {n : Nat} (h : n < twoTo 63) :
    (ofJson origin (.number (.int n))).toNat = .ok n := by
  rw [ofJson_int origin (by exact_mod_cast h), toNat, if_pos (Int.natCast_nonneg n), Int.toNat_natCast]

end Tree

/-! ## Values -/

/-- a signed integer of 64 bits can hold the value, if it is a number -/
def Kind.Fits : (k : Kind) → k.Value → Prop
  | .uint64, n => n.toNat < twoTo 63
  | _, _ => True

/-- a value there and back -/
theorem ofTree_ofJson (origin : Option String) {k : Kind} {v : k.Value} (h : k.Fits v) :
    k.ofTree (Tree.ofJson origin (k.toJson v)) = .ok v := by
  cases k with
  | text => rfl
  | optionalText => cases v <;> rfl
  | optionalPath => cases v <;> rfl
  | headers => exact Tree.toHeaders_ofJson origin v
  | int64 =>
    have hbound : (v : Int64).toInt < twoTo 63 := Int64.toInt_lt v
    rw [Kind.ofTree, Kind.toJson, Tree.ofJson_int origin hbound]
    exact congrArg Except.ok (Int64.ofInt_toInt v)
  | uint64 =>
    rw [Kind.ofTree, Kind.toJson, Tree.toNat_ofJson origin h]
    exact congrArg Except.ok UInt64.ofNat_toNat
  | uint32 =>
    have hbound : (v : UInt32).toNat < twoTo 63 := (UInt32.toNat_lt v).trans (by decide)
    rw [Kind.ofTree, Kind.toJson, Tree.toNat_ofJson origin hbound]
    exact congrArg Except.ok UInt32.ofNat_toNat

/-- a preset's value is taken as it is -/
theorem ofTree_presetTree (p : Preset) (f : Field) : f.kind.ofTree (presetTree p f) = .ok ((ofPreset p).get f) := by
  refine ofTree_ofJson none ?_
  cases f with
  | timeoutSecs => exact (by decide : (300 : UInt64).toNat < twoTo 63)
  | _ => exact trivial

end CommentDigest.Settings
