/-
What the endpoint gets to see of a listing.

The records of a batch are written as compact JSON text. Reading that text back gives an array with one object for each
value that was processed, and the object has exactly the fields whose paths lead somewhere in that value. No level is
lost to the reader's limit: the path to the records and the path of a field take away at least three levels, and the
array and the object of the text put back two.

- `extracted_depth`: how deep a value can be that a field has found
- `parse_recordsJson`: the text of the records, read back
-/
import CommentDigest.Batch
import CommentDigest.Proofs.Json.Printed
import CommentDigest.Proofs.Path
import Mathlib.Data.List.Forall2

namespace CommentDigest.Batch

open Json

/-! ## Sources -/

/-- the values that the records of a batch are taken from -/
def sources (listing : Json) (path : String) (limit : Int64) : List Json :=
  match Path.find? listing path with
  | some (.array xs) => upTo limit xs
  | _ => []

theorem mem_of_mem_upTo {α : Type} {limit : Int64} {xs : List α} {x : α} (h : x ∈ upTo limit xs) : x ∈ xs := by
  unfold upTo at h
  split_ifs at h
  · exact List.mem_of_mem_take h
  · exact h

/-- a batch is its sources, each taken through the mapping -/
theorem collect_eq (listing : Json) (path : String) (mapping : FieldMapping) (limit : Int64) :
    collect listing path mapping limit =
      ⟨(sources listing path limit).map (Record.extract mapping), (sources listing path limit).length⟩ := by
  unfold collect sources
  cases Path.find? listing path with
  | none => rfl
  | some v =>
    cases v with
    | array xs => simp
    | _ => rfl

/-- a source is a part of the listing, two levels down at least -/
theorem source_partOf {listing x : Json} {path : String} {limit : Int64} (h : x ∈ sources listing path limit) :
    PartOf x listing ∧ x.depth + 2 ≤ listing.depth := by
  unfold sources at h
  split at h
  · rename_i xs hfind
    have hx := mem_of_mem_upTo h
    have harray := depth_lt_array hx
    have hpath := Path.depth_lt_of_find? hfind
    exact ⟨PartOf.trans (.item hx .refl) (Path.partOf_of_find? hfind), by omega⟩
  · cases h

/-! ## Fields -/

/-- what an object must be to show a value through a mapping: the names whose paths lead somewhere, in mapping order,
none of them twice, each with the value found -/
structure Shows (mapping : FieldMapping) (x : Json) (ms : Members) : Prop where
  ordered : (Assoc.names ms).Sublist (Assoc.names mapping.fields)
  distinct : (Assoc.names ms).Nodup
  entry : ∀ name v, (name, v) ∈ ms ↔ ∃ path, (name, path) ∈ mapping.fields ∧ Path.find? x path = some v

/-- a field and what its path leads to -/
def found (x : Json) (f : String × String) : Option (String × Json) := (Path.find? x f.2).map fun v => (f.1, v)

theorem present_extract (mapping : FieldMapping) (x : Json) :
    (Record.extract mapping x).present = mapping.fields.filterMap (found x) := by
  rw [Record.present, Record.extract, List.filterMap_map]
  rfl

theorem names_present_sublist (x : Json) (fields : List (String × String)) :
    (Assoc.names (fields.filterMap (found x))).Sublist (Assoc.names fields) := by
  induction fields with
  | nil => exact .slnil
  | cons f fields ih =>
    cases hf : Path.find? x f.2 with
    | none =>
      rw [List.filterMap_cons_none (by rw [found, hf]; rfl)]
      exact .cons _ ih
    | some v =>
      rw [List.filterMap_cons_some (by rw [found, hf]; rfl)]
      exact .cons_cons _ ih

theorem shows_present (mapping : FieldMapping) (x : Json) : Shows mapping x (Record.extract mapping x).present := by
  rw [present_extract]
  have hsub := names_present_sublist x mapping.fields
  refine ⟨hsub, hsub.nodup mapping.distinct, fun name v => ?_⟩
  rw [List.mem_filterMap]
  constructor
  · rintro ⟨⟨k, path⟩, hf, hv⟩
    obtain ⟨w, hw, heq⟩ := Option.map_eq_some_iff.1 hv
    cases heq
    exact ⟨path, hf, hw⟩
  · rintro ⟨path, hf, hv⟩
    exact ⟨(name, path), hf, by rw [found, hv]; rfl⟩

/-! ## The text of the records -/

/-- a value that a field has found is three levels less deep than the listing -/
theorem extracted_depth {listing x v : Json} {path field : String} {limit : Int64} (hx : x ∈ sources listing path limit)
    (hv : Path.find? x field = some v) : v.depth + 3 ≤ listing.depth := by
  calc v.depth + 3 = (v.depth + 1) + 2 := rfl
    _ ≤ x.depth + 2 := Nat.add_le_add_right (Path.depth_lt_of_find? hv) 2
    _ ≤ listing.depth := (source_partOf hx).2

/-- **The records read back.** Whatever listing has been read, and whatever paths and limit are used: when the values
found have no other numbers than exact integers, the text of the records is read without error, and it is an array of as
many objects as values were processed, each showing its own value through the mapping. -/
theorem parse_recordsJson {text path : String} {listing : Json} {mapping : FieldMapping} {limit : Int64}
    (hparse : Json.parse text = .ok listing)
    (hexact : ∀ x ∈ sources listing path limit, ∀ f ∈ mapping.fields, ∀ v, Path.find? x f.2 = some v → Exact v) :
    ∃ objects : List Members,
      Json.parse (recordsJson (collect listing path mapping limit).records).render =
          .ok (.array (objects.map .object)) ∧
        objects.length = (collect listing path mapping limit).processed ∧
        (collect listing path mapping limit).records = (sources listing path limit).map (Record.extract mapping) ∧
        List.Forall₂ (Shows mapping) (sources listing path limit) objects := by
  obtain ⟨t, ws, -, hspells, -⟩ := parse_eq_ok_iff.1 hparse
  obtain ⟨hdepth, hdistinct⟩ := hspells.forall_depth_le
  have hfound : ∀ x ∈ sources listing path limit, ∀ m ∈ (Record.extract mapping x).present,
      m.2.depth + 3 ≤ listing.depth ∧ Distinct m.2 ∧ Exact m.2 := by
    rintro x hx ⟨name, v⟩ hm
    obtain ⟨field, hf, hv⟩ := ((shows_present mapping x).entry name v).1 hm
    have hpart : PartOf v listing := (Path.partOf_of_find? hv).trans (source_partOf hx).1
    exact ⟨extracted_depth hx hv, hdistinct.of_partOf hpart, hexact x hx _ hf v hv⟩
  rw [collect_eq]
  refine ⟨(sources listing path limit).map fun x => (Record.extract mapping x).present, ?_, List.length_map _, rfl, ?_⟩
  · rw [recordsJson, List.map_map, List.map_map]
    apply parse_render
    · -- two levels of the text on top of values that are three levels below the listing
      apply depth_array_le.2
      refine List.forall_mem_map.2 fun x hx => depth_object_le.2 fun m hm => ?_
      have hvalue := (hfound x hx m hm).1
      have hlevels : listing.depth ≤ 127 := hdepth
      omega
    · rw [Distinct, everyObject_array]
      refine List.forall_mem_map.2 fun x hx => everyObject_object.2 ⟨(shows_present mapping x).distinct, fun m hm => ?_⟩
      exact (hfound x hx m hm).2.1
    · apply exact_array.2
      refine List.forall_mem_map.2 fun x hx => exact_object.2 fun m hm => ?_
      exact (hfound x hx m hm).2.2
  · rw [List.forall₂_map_right_iff]
    exact List.forall₂_same.2 fun x _ => shows_present mapping x

/-- a record with a quote and a null in it, and a record without any field -/
theorem parse_recordsJson_two :
    let text := "\x7b\"data\":\x7b\"children\":" ++
      "[\x7b\"t\":\"a\\\"\\n\",\"u\":null,\"n\":-7\x7d,\x7b\"x\":[]\x7d]\x7d\x7d"
    let listing : Json := .object [("data", .object [("children", .array
      [.object [("t", .string "a\"\n"), ("u", .null), ("n", .number (.int (-7)))], .object [("x", .array [])]])])]
    let mapping := FieldMapping.ofPairs [("title", "t"), ("note", "u"), ("gone", "v"), ("count", "n")]
    let batch := collect listing defaultPath mapping 0
    let objects : List Members :=
      [[("title", .string "a\"\n"), ("note", .null), ("count", .number (.int (-7)))], []]
    Json.parse text = .ok listing ∧
      (∀ x ∈ sources listing defaultPath 0, ∀ f ∈ mapping.fields, ∀ v, Path.find? x f.2 = some v → Exact v) ∧
      Json.parse (recordsJson batch.records).render = .ok (.array (objects.map .object)) ∧
      objects.length = batch.processed ∧
      batch.records = (sources listing defaultPath 0).map (Record.extract mapping) ∧
      List.Forall₂ (Shows mapping) (sources listing defaultPath 0) objects := by
  intro text listing mapping batch objects
  have hparse : Json.parse text = .ok listing := by decide +kernel
  have hlisting : Exact listing := by simp [listing, Number.fits, twoTo]
  have hexact : ∀ x ∈ sources listing defaultPath 0, ∀ f ∈ mapping.fields, ∀ v, Path.find? x f.2 = some v → Exact v :=
    fun x hx f _ v hv => hlisting.of_partOf ((Path.partOf_of_find? hv).trans (source_partOf hx).1)
  have hread : Json.parse (recordsJson batch.records).render = .ok (.array (objects.map .object)) := by decide +kernel
  obtain ⟨objects', hread', himage⟩ := parse_recordsJson hparse hexact
  -- the text is read in one way only
  have hsame : objects' = objects := by
    have hitems := Json.array.inj (Except.ok.inj (hread'.symm.trans hread))
    exact List.map_injective_iff.2 (fun _ _ h => Json.object.inj h) hitems
  exact ⟨hparse, hexact, hread, hsame ▸ himage⟩

end CommentDigest.Batch
