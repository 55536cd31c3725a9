/-
The records of a batch.

A batch is taken from the array at a path. As many of its items are processed as a positive limit lets through, and all
of them otherwise. A record is its own item seen through the mapping: the names of the mapping, in order, each with what
its path leads to in the item. A listing without such an array gives nothing.

- `length_upTo`, `getElem?_upTo`: how many values a limit lets through, and which
- `get?_extract`: looking up a field of a record
- `Flattens`, `eq_extract_iff`: what a record has to be, and that only one record is
- `collect_flattens`: batches
-/
import CommentDigest.Proofs.RecordImage

namespace CommentDigest.Batch

/-! ## Limits -/

/-- how many of some values are processed -/
def allowed (limit : Int64) (count : Nat) : Nat := if limit.toInt ≤ 0 then count else min limit.toInt.toNat count

theorem length_upTo {α : Type} (limit : Int64) (xs : List α) : (upTo limit xs).length = allowed limit xs.length := by
  unfold upTo allowed
  split_ifs with hpos hle hle
  · exact absurd hpos (Int.not_lt.2 hle)
  · exact List.length_take
  · rfl
  · exact absurd (Int.not_le.1 hle) hpos

theorem getElem?_upTo {α : Type} {limit : Int64} {xs : List α} {i : Nat} (h : i < allowed limit xs.length) :
    (upTo limit xs)[i]? = xs[i]? := by
  rw [← length_upTo] at h
  unfold upTo at h ⊢
  split_ifs at h ⊢
  · rw [List.length_take] at h
    exact List.getElem?_take_of_lt (by omega)
  · rfl

/-! ## Fields -/

section

variable {mapping : FieldMapping} {x : Json} {r : Record}

theorem find?_of_mem_names {name : String} (h : name ∈ r.names) :
    Assoc.find? (· == ·) name r.fields = some (r.get? name) := by
  obtain ⟨f, hf, rfl⟩ := List.mem_map.1 h
  have hsome : (r.fields.find? fun g => g.1 == f.1).isSome := List.find?_isSome.2 ⟨f, hf, beq_self_eq_true f.1⟩
  obtain ⟨g, hg⟩ := Option.isSome_iff_exists.1 hsome
  rw [Assoc.find?, Record.get?, hg]
  rfl

theorem get?_extract (mapping : FieldMapping) (x : Json) (name : String) :
    (Record.extract mapping x).get? name = (Assoc.find? (· == ·) name mapping.fields).bind (Path.find? x) := by
  rw [Record.get?, Record.extract, List.find?_map, Assoc.find?]
  change Option.bind (Option.map _ (mapping.fields.find? fun f => f.1 == name)) _ = _
  cases mapping.fields.find? fun f => f.1 == name <;> rfl

/-- what a record must be to show a value through a mapping: the names of the mapping in order, each with what its path
leads to in the value, and no others -/
structure Flattens (mapping : FieldMapping) (x : Json) (r : Record) : Prop where
  names : r.names = Assoc.names mapping.fields
  field : ∀ f ∈ mapping.fields, r.get? f.1 = Path.find? x f.2
  other : ∀ name ∉ Assoc.names mapping.fields, r.get? name = none

theorem apart_fields (mapping : FieldMapping) : Assoc.Apart (· == ·) mapping.fields :=
  Assoc.apart_iff_nodup.2 mapping.distinct

/-- a record shows its own value through its own mapping -/
theorem flattens_extract (mapping : FieldMapping) (x : Json) : Flattens mapping x (Record.extract mapping x) where
  names := by
    rw [Record.names, Record.extract, List.map_map]
    rfl
  field f hf := by
    rw [get?_extract, Assoc.find?_of_mem beq_self_eq_true (apart_fields mapping) hf, Option.bind_some]
  other name hname := by
    rw [get?_extract, Assoc.find?_of_notMem hname, Option.bind_none]

/-- **No other record does.** -/
theorem Flattens.eq_extract (h : Flattens mapping x r) : r = Record.extract mapping x := by
  have h' := flattens_extract mapping x
  have hdistinct : r.names.Nodup := by
    rw [h.names]
    exact mapping.distinct
  have hapart : Assoc.Apart (· == ·) r.fields := Assoc.apart_iff_nodup.2 hdistinct
  have hnames : r.names = (Record.extract mapping x).names := h.names.trans h'.names.symm
  have hfields : r.fields = (Record.extract mapping x).fields := by
    refine Assoc.eq_of_find?_eq beq_self_eq_true hapart hnames fun name hname => ?_
    have hmapped : name ∈ Assoc.names mapping.fields := h.names ▸ hname
    obtain ⟨f, hf, rfl⟩ := List.mem_map.1 hmapped
    rw [find?_of_mem_names hname, find?_of_mem_names (hnames ▸ hname), h.field f hf, h'.field f hf]
  exact congrArg Record.mk hfields

theorem eq_extract_iff : Record.extract mapping x = r ↔ Flattens mapping x r := by
  constructor
  · rintro rfl
    exact flattens_extract mapping x
  · intro h
    exact h.eq_extract.symm

end

/-! ## Batches -/

theorem sources_of_array {listing : Json} {path : String} {limit : Int64} {xs : List Json}
    (h : Path.find? listing path = some (.array xs)) : sources listing path limit = upTo limit xs := by
  rw [sources, h]

theorem sources_of_no_array {listing : Json} {path : String} {limit : Int64}
    (h : ∀ xs, Path.find? listing path ≠ some (.array xs)) : sources listing path limit = [] := by
  unfold sources
  split
  · rename_i xs hxs
    exact absurd hxs (h xs)
  · rfl

/-- **Batches.** If an array stands at the path, as many of its items are processed as the limit allows: all of them if
it is zero or less, and no more than it says otherwise. There is one record for each, in order, and it is the one that
shows its item through the mapping; what it holds in a field does not depend on other fields, other items or the limit. If
no array stands at the path, the batch is empty. -/
theorem collect_flattens (listing : Json) (path : String) (mapping : FieldMapping) (limit : Int64) :
    (Assoc.names mapping.fields).Nodup ∧
    (∀ xs, Path.find? listing path = some (.array xs) →
      (collect listing path mapping limit).processed = (collect listing path mapping limit).records.length ∧
      (collect listing path mapping limit).processed =
        (if limit.toInt ≤ 0 then xs.length else min limit.toInt.toNat xs.length) ∧
      ∀ i < (collect listing path mapping limit).processed, ∃ x, xs[i]? = some x ∧
        ∀ r, (collect listing path mapping limit).records[i]? = some r ↔ Flattens mapping x r) ∧
    ((∀ xs, Path.find? listing path ≠ some (.array xs)) → collect listing path mapping limit = ⟨[], 0⟩) := by
  rw [collect_eq]
  refine ⟨mapping.distinct, fun xs hxs => ?_, fun hnone => ?_⟩
  · rw [sources_of_array hxs]
    refine ⟨(List.length_map _).symm, length_upTo limit xs, fun i hi => ?_⟩
    obtain ⟨x, hx⟩ : ∃ x, (upTo limit xs)[i]? = some x := ⟨_, List.getElem?_eq_getElem hi⟩
    have hi' : i < allowed limit xs.length := length_upTo limit xs ▸ hi
    refine ⟨x, (getElem?_upTo hi').symm.trans hx, fun r => ?_⟩
    rw [List.getElem?_map, hx, Option.map_some, Option.some_inj, eq_extract_iff]
  · rw [sources_of_no_array hnone]
    rfl

/-- a limit of two on four items, no limit at all, and a path to something else -/
theorem collect_flattens_mixed :
    let xs : List Json :=
      [.object [("a", .object [("b", .null)])], .array [.bool true], .null, .object [("a", .string "late")]]
    let listing : Json := .object [("r", .array xs), ("s", .object [("0", .array [])])]
    let mapping := FieldMapping.ofPairs [("deep", "a.b"), ("first", "0"), ("deep", "a")]
    Path.find? listing "r" = some (.array xs) ∧ (collect listing "r" mapping 2).processed = 2 ∧
      (∀ r, (collect listing "r" mapping 2).records[1]? = some r ↔ Flattens mapping (.array [.bool true]) r) ∧
      (collect listing "r" mapping Int64.minValue).processed = 4 ∧
      (∀ xs, Path.find? listing "s" ≠ some (.array xs)) ∧ collect listing "s" mapping 2 = ⟨[], 0⟩ := by
  intro xs listing mapping
  have hxs : Path.find? listing "r" = some (.array xs) := by decide
  have hobject : Path.find? listing "s" = some (.object [("0", .array [])]) := by decide
  have hnone : ∀ xs, Path.find? listing "s" ≠ some (.array xs) := by
    intro xs h
    rw [hobject] at h
    cases h
  obtain ⟨-, htwo, -⟩ := collect_flattens listing "r" mapping 2
  obtain ⟨-, hall, -⟩ := collect_flattens listing "r" mapping Int64.minValue
  obtain ⟨-, -, hempty⟩ := collect_flattens listing "s" mapping 2
  obtain ⟨-, hcount, hitem⟩ := htwo xs hxs
  have hcount' : (collect listing "r" mapping 2).processed = 2 := hcount.trans (by decide)
  obtain ⟨x, hx, hrecord⟩ := hitem 1 (by rw [hcount']; decide)
  obtain rfl : Json.array [.bool true] = x := Option.some.inj hx
  exact ⟨hxs, hcount', hrecord, (hall xs hxs).2.1.trans (by decide), hnone, hempty hnone⟩

end CommentDigest.Batch
