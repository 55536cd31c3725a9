/-
Settings as JSON values.

What is written of settings is a tree of three levels at most, in which every number is kept exactly and no object has a
name twice. Each value of a field reads back from what is written of it. An object is read member by member: a field
takes what the member of its name decodes to, and keeps its default without one.

- `lossless_toJson`: the tree that is written
- `Kind.decode_toJson`: a value there and back
- `decode_object_eq_ok_iff`: the settings that an object gives
- `overlay_eq_ok_iff`: the settings that changes to a preset give
-/
import CommentDigest.Proofs.Json.Printed
import CommentDigest.Proofs.Settings.Fields
import CommentDigest.Settings.Json

namespace CommentDigest

open Json

/-! ## The tree that is written -/

theorem HeaderTemplate.lossless_toJson (h : HeaderTemplate) : Lossless 1 h.toJson := by
  refine lossless_object.2 ⟨?_, ?_⟩
  · show ["key", "value"].Nodup
    decide
  · intro m hm
    simp only [List.mem_cons, List.not_mem_nil, or_false] at hm
    rcases hm with rfl | rfl
    · exact lossless_string h.name
    · exact lossless_string h.value

namespace Settings

/-! ## Numbers -/

theorem int64_range (i : Int64) : int64Range.low ≤ i.toInt ∧ i.toInt ≤ int64Range.high :=
  ⟨Int64.le_toInt i, Int.le_sub_one_of_lt (Int64.toInt_lt i)⟩

theorem uint64_range (n : UInt64) : uint64Range.low ≤ (n.toNat : Int) ∧ (n.toNat : Int) ≤ uint64Range.high := by
  have := n.toNat_lt
  have hhigh : uint64Range.high = 18446744073709551615 := rfl
  exact ⟨Int.natCast_nonneg _, by omega⟩

theorem uint32_range (n : UInt32) : uint32Range.low ≤ (n.toNat : Int) ∧ (n.toNat : Int) ≤ uint32Range.high := by
  have := n.toNat_lt
  have hhigh : uint32Range.high = 4294967295 := rfl
  exact ⟨Int.natCast_nonneg _, by omega⟩

/-! ## Values there and back -/

theorem Kind.lossless_toJson (k : Kind) (a : k.Value) : Lossless 2 (k.toJson a) := by
  cases k with
  | text => exact (lossless_string a).mono (by decide)
  | optionalText | optionalPath =>
    cases a with
    | none => exact lossless_null.mono (by decide)
    | some s => exact (lossless_string s).mono (by decide)
  | headers =>
    refine lossless_array.2 fun x hx => ?_
    obtain ⟨h, -, rfl⟩ := List.mem_map.1 hx
    exact h.lossless_toJson
  | int64 =>
    refine (lossless_int (fits_iff.2 ?_)).mono (by decide)
    have := int64_range a
    have hlow : int64Range.low = -9223372036854775808 := rfl
    have hhigh : int64Range.high = 9223372036854775807 := rfl
    omega
  | uint64 =>
    refine (lossless_int (fits_iff.2 ?_)).mono (by decide)
    have := UInt64.toNat_lt a
    omega
  | uint32 =>
    refine (lossless_int (fits_iff.2 ?_)).mono (by decide)
    have := UInt32.toNat_lt a
    omega

theorem lossless_toJson (s : Settings) : Lossless 3 s.toJson := by
  refine lossless_object.2 ⟨?_, fun m hm => ?_⟩
  · rw [Assoc.names, List.map_map]
    exact nodup_names
  · obtain ⟨f, -, rfl⟩ := List.mem_map.1 hm
    exact f.kind.lossless_toJson (s.get f)

theorem decode_headers (hs : List HeaderTemplate) :
    Decode.list HeaderTemplate.decode (.array (hs.map HeaderTemplate.toJson)) = .ok hs := by
  rw [Decode.list]
  induction hs with
  | nil => rfl
  | cons h hs ih =>
    have hfirst : HeaderTemplate.decode h.toJson = .ok h := by
      simp only [HeaderTemplate.decode, HeaderTemplate.toJson, HeaderTemplate.decodeMembers, if_true,
        String.reduceEq, if_false]
      rfl
    rw [List.map_cons, List.mapM_cons, hfirst, ih]
    rfl

theorem decode_integer {range : IntRange} {i : Int} (h : range.low ≤ i ∧ i ≤ range.high) :
    Decode.integer range (.number (.int i)) = .ok i := by
  rw [Decode.integer, IntRange.of, if_pos h]

/-- **A value there and back.** -/
theorem Kind.decode_toJson (k : Kind) (a : k.Value) : k.decode (k.toJson a) = .ok a := by
  cases k with
  | text => rfl
  | optionalText | optionalPath => cases a <;> rfl
  | headers => exact decode_headers a
  | int64 =>
    show (Decode.integer int64Range (.number (.int (Int64.toInt a)))).map Int64.ofInt = _
    rw [decode_integer (int64_range a)]
    exact congrArg Except.ok (Int64.ofInt_toInt a)
  | uint64 =>
    show (Decode.integer uint64Range (.number (.int (UInt64.toNat a)))).map _ = _
    rw [decode_integer (uint64_range a)]
    exact congrArg Except.ok UInt64.ofNat_toNat
  | uint32 =>
    show (Decode.integer uint32Range (.number (.int (UInt32.toNat a)))).map _ = _
    rw [decode_integer (uint32_range a)]
    exact congrArg Except.ok UInt32.ofNat_toNat

/-! ## Objects -/

/-- the value of a member, or the default without one -/
def Kind.decodeOr (k : Kind) (default : k.Value) : Option Json → Except Fault k.Value
  | none => .ok default
  | some v => k.decode v

/-- **Members are decoded field by field.** -/
theorem decodeMembers_eq_ok_iff {ms : Members} (hnodup : (Assoc.names ms).Nodup) {s s' : Settings} :
    decodeMembers s ms = .ok s' ↔
      ∀ f : Field, f.kind.decodeOr (s.get f) (Members.get? ms f.name) = .ok (s'.get f) := by
  induction ms generalizing s with
  | nil =>
    constructor
    · intro h f
      cases h
      rfl
    · intro h
      exact congrArg Except.ok (ext_get fun f => Except.ok.inj (h f))
  | cons m ms ih =>
    obtain ⟨k, v⟩ := m
    rw [Assoc.names_cons, List.nodup_cons] at hnodup
    cases hfield : Field.ofName? k with
    | none =>
      have hname := ofName?_eq_none_iff.1 hfield
      have hget : ∀ f : Field, Members.get? ((k, v) :: ms) f.name = Members.get? ms f.name :=
        fun f => Assoc.find?_cons_of_ne (Ne.symm (hname f)) v ms
      simp only [decodeMembers, hfield, hget]
      exact ih hnodup.2
    | some g =>
      obtain rfl := ofName?_eq_some_iff.1 hfield
      have hself : Members.get? ((g.name, v) :: ms) g.name = some v := Assoc.find?_cons_self _ v ms
      have hother : ∀ f : Field, f ≠ g → Members.get? ((g.name, v) :: ms) f.name = Members.get? ms f.name :=
        fun f hf => Assoc.find?_cons_of_ne (fun e => hf (name_injective e.symm)) v ms
      have hlater : Members.get? ms g.name = none := Assoc.find?_of_notMem hnodup.1
      simp only [decodeMembers, hfield]
      cases hdecode : g.kind.decode v with
      | error e =>
        refine iff_of_false (fun h => by cases h) fun h => ?_
        have hg := h g
        rw [hself, Kind.decodeOr, hdecode] at hg
        cases hg
      | ok a =>
        refine (ih hnodup.2 (s := s.put g a)).trans (forall_congr' fun f => ?_)
        by_cases hf : f = g
        · subst hf
          rw [hself, hlater, Kind.decodeOr, Kind.decodeOr, hdecode, get_put]
        · rw [hother f hf, get_put_of_ne s hf]

/-- **The settings that an object gives.** -/
theorem decode_object_eq_ok_iff {ms : Members} (hnodup : (Assoc.names ms).Nodup) {s : Settings} :
    decode (.object ms) = .ok s ↔
      ∀ f : Field, f.kind.decodeOr ((ofPreset .openai).get f) (Members.get? ms f.name) = .ok (s.get f) :=
  decodeMembers_eq_ok_iff hnodup

/-- of changes to the members of an object the last one of a name counts -/
theorem get?_collectInto (ms changes : Members) (name : String) :
    Members.get? (Assoc.collectInto ms changes) name =
      (Members.get? (Members.ofList changes) name).or (Members.get? ms name) :=
  Assoc.find?_collectInto name ms changes

/-- **The settings that changes to a preset give.** A field takes its last change, and stays as it is without one. -/
theorem overlay_eq_ok_iff {p : Preset} {changes : Members} {s : Settings} :
    overlay p changes = .ok s ↔
      ∀ f : Field, f.kind.decodeOr ((ofPreset p).get f) (Members.get? (Members.ofList changes) f.name) =
        .ok (s.get f) := by
  have hnodup : (Assoc.names (Field.all.map fun f => (f.name, f.kind.toJson ((ofPreset p).get f)))).Nodup := by
    rw [Assoc.names, List.map_map]
    exact nodup_names
  refine (decode_object_eq_ok_iff (Assoc.nodup_collectInto hnodup)).trans (forall_congr' fun f => ?_)
  have hpreset : Members.get? (Field.all.map fun f => (f.name, f.kind.toJson ((ofPreset p).get f))) f.name =
      some (f.kind.toJson ((ofPreset p).get f)) := find?_fields (fun f => f.kind.toJson ((ofPreset p).get f)) f
  rw [get?_collectInto, hpreset]
  cases Members.get? (Members.ofList changes) f.name with
  | some v => exact Iff.rfl
  | none => rw [Option.none_or, Kind.decodeOr, Kind.decodeOr, Kind.decode_toJson]

end Settings

end CommentDigest
