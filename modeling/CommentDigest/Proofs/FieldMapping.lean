/-
Field mappings given as pairs and as text.

A text that is read as an object names its members one behind the other, and a name may come more than once. Both the
object that is read and the mapping made from it put such names together, each by itself: a name stands where it first
comes, and it has its last value. So an object with one string for each pair gives the mapping of the pairs, and whether a
value is no string is asked of last values only.

- `parse_object_iff`: the texts that are read as objects
- `writesObject_render`: members written as compact text, repeated names and all
- `Merges`, `merges_collect`: what becomes of repeated names
- `exists_strings`, `stringPairs_strings`, `stringPairs_of_find?_eq_some`: members whose values are strings, and the first
  one whose value is not
- `parse_merges`: field mappings
-/
import CommentDigest.FieldMapping
import CommentDigest.Proofs.Json.Printed
import Mathlib.Data.List.Find

namespace CommentDigest

namespace Json

open Read

/-! ## Object texts -/

/-- the text is an object with these members written one behind the other, as many levels deep as the reader goes at
most; a name may come more than once -/
def WritesObject (text : String) (ms : List (String × Json)) : Prop :=
  ∃ ws t ws', Blanks ws ∧ Blanks ws' ∧ text.toList = ws ++ '{' :: (t ++ ws') ∧
    Spells (maxLevels - 1) t (.members true ms)

theorem exists_members_of_spells {n : Nat} {t : List Char} {ms' : Members} (h : Spells n t (.value (.object ms'))) :
    ∃ ws u ms, Blanks ws ∧ t = ws ++ '{' :: u ∧ Spells (n - 1) u (.members true ms) ∧ ms' = Members.ofList ms := by
  generalize hp : Part.value (.object ms') = p at h
  induction h with
  | blank hc _ ih =>
    obtain ⟨ws, u, ms, hws, rfl, hu, hms⟩ := ih hp
    exact ⟨_ :: ws, u, ms, hws.cons hc, rfl, hu, hms⟩
  | object hms _ =>
    cases hp
    exact ⟨[], _, _, blanks_nil, rfl, hms, rfl⟩
  | _ => cases hp

/-- a text is read as an object exactly if it writes one, and what is read are its members put together by name -/
theorem parse_object_iff {text : String} {ms' : Members} :
    parse text = .ok (.object ms') ↔ ∃ ms, WritesObject text ms ∧ ms' = Members.ofList ms := by
  rw [parse_eq_ok_iff]
  constructor
  · rintro ⟨t, ws', htext, ht, hws'⟩
    obtain ⟨ws, u, ms, hws, rfl, hu, hms⟩ := exists_members_of_spells ht
    refine ⟨ms, ⟨ws, u, ws', hws, hws', ?_, hu⟩, hms⟩
    rw [htext, List.append_assoc, List.cons_append]
  · rintro ⟨ms, ⟨ws, t, ws', hws, hws', htext, ht⟩, rfl⟩
    refine ⟨ws ++ '{' :: t, ws', ?_, (Spells.object ht).blanks hws, hws'⟩
    rw [htext, List.append_assoc, List.cons_append]

theorem WritesObject.parse {text : String} {ms : List (String × Json)} (h : WritesObject text ms) :
    parse text = .ok (.object (Members.ofList ms)) :=
  parse_object_iff.2 ⟨ms, h, rfl⟩

/-- compact text writes all members, also those whose name comes again -/
theorem writesObject_render {ms : List (String × Json)} (h : ∀ m ∈ ms, Lossless (maxLevels - 1) m.2) :
    WritesObject (render (.object ms)) ms := by
  have hvalue := fun m hm => (spells_printed (h m hm)).1
  obtain ⟨t, ht, htexts⟩ := exists_memberTexts_chars fun m hm => ⟨_, m.2, hvalue m hm⟩
  refine ⟨[], t, [], blanks_nil, blanks_nil, by simp [render, ht], spells_members_iff.2 ⟨_, htexts, ?_⟩⟩
  rw [Assoc.Related, List.forall₂_map_left_iff]
  exact List.forall₂_same.2 fun m hm => ⟨rfl, hvalue m hm⟩

end Json

namespace FieldMapping

open Json (WritesObject)

/-! ## Repeated names -/

/-- the value that a name comes with last -/
def last? {ν : Type} (name : String) (pairs : List (String × ν)) : Option ν :=
  Assoc.find? (· == ·) name pairs.reverse

/-- the names of some pairs, each once and where it first comes, with their last values -/
structure Merges {ν : Type} (pairs fields : List (String × ν)) : Prop where
  distinct : (Assoc.names fields).Nodup
  names : Assoc.names fields = (Assoc.names pairs).eraseDups
  value : ∀ name, Assoc.find? (· == ·) name fields = last? name pairs

theorem merges_collect {ν : Type} (pairs : List (String × ν)) : Merges pairs (Assoc.collect (· == ·) pairs) where
  distinct := Assoc.nodup_collect pairs
  names := Assoc.names_collect (fun _ _ => BEq.comm) pairs
  value name := Assoc.find?_collect Assoc.beq_equivalence name pairs

theorem Merges.last?_eq {ν : Type} {pairs fields : List (String × ν)} (h : Merges pairs fields) {f : String × ν}
    (hf : f ∈ fields) : last? f.1 pairs = some f.2 := by
  rw [← h.value]
  exact Assoc.find?_of_mem beq_self_eq_true (Assoc.apart_iff_nodup.2 h.distinct) hf

theorem fields_foldl_put (m : FieldMapping) (pairs : List (String × String)) :
    (pairs.foldl (fun m p => m.put p.1 p.2) m).fields = pairs.foldl (fun l p => Assoc.put (· == ·) p.1 p.2 l) m.fields := by
  induction pairs generalizing m with
  | nil => rfl
  | cons p pairs ih => exact ih (m.put p.1 p.2)

theorem fields_ofPairs (pairs : List (String × String)) : (ofPairs pairs).fields = Assoc.collect (· == ·) pairs :=
  fields_foldl_put empty pairs

theorem eq_of_fields {m m' : FieldMapping} (h : m.fields = m'.fields) : m = m' := by
  cases m
  cases h
  rfl

/-- pairs that are put together already make the same mapping -/
theorem ofPairs_collect (pairs : List (String × String)) : ofPairs (Assoc.collect (· == ·) pairs) = ofPairs pairs :=
  eq_of_fields (by rw [fields_ofPairs, fields_ofPairs, Assoc.collect_of_nodup (Assoc.nodup_collect pairs)])

/-! ## Members and strings -/

/-- pairs as members of an object -/
def strings (pairs : List (String × String)) : Members := pairs.map fun p => (p.1, .string p.2)

theorem strings_eq_iff {pairs : List (String × String)} {ms : Members} :
    strings pairs = ms ↔ Assoc.Related (fun path v => Json.string path = v) pairs ms := by
  have hmember : (fun (p : String × String) (m : String × Json) => p.1 = m.1 ∧ Json.string p.2 = m.2) =
      fun p m => (p.1, Json.string p.2) = m := by
    funext p m
    rw [Prod.ext_iff]
  rw [Assoc.Related, hmember, ← List.forall₂_map_left_iff, List.forall₂_eq_eq_eq, strings]

/-- repeated names are put together the same way among pairs and among members -/
theorem ofList_strings (pairs : List (String × String)) :
    Members.ofList (strings pairs) = strings (Assoc.collect (· == ·) pairs) :=
  (strings_eq_iff.2 ((strings_eq_iff.1 rfl).collect (· == ·))).symm

theorem stringPairs_strings (pairs : List (String × String)) : stringPairs (strings pairs) = .ok pairs := by
  induction pairs with
  | nil => rfl
  | cons p pairs ih =>
    rw [strings, List.map_cons, ← strings, stringPairs, ih]
    rfl

theorem exists_strings {ms : Members} (h : ∀ m ∈ ms, m.2.isString = true) : ∃ pairs, strings pairs = ms := by
  induction ms with
  | nil => exact ⟨[], rfl⟩
  | cons m ms ih =>
    obtain ⟨name, v⟩ := m
    obtain ⟨hv, hms⟩ := List.forall_mem_cons.1 h
    obtain ⟨pairs, rfl⟩ := ih hms
    cases v with
    | string path => exact ⟨(name, path) :: pairs, rfl⟩
    | _ => cases hv

/-- the first member whose value is no string is the flaw -/
theorem stringPairs_of_find?_eq_some {ms : Members} {m : String × Json}
    (h : ms.find? (fun m => !m.2.isString) = some m) : stringPairs ms = .error (.notPath m.1) := by
  induction ms with
  | nil => cases h
  | cons l ms ih =>
    obtain ⟨name, v⟩ := l
    cases v with
    | string path =>
      rw [stringPairs, ih h]
      rfl
    | _ =>
      cases h
      rfl

/-! ## Mappings from members -/

/-- the first name, in the order in which names first come, whose last value is no string -/
def firstOther? (ms : Members) : Option String :=
  (Assoc.names ms).eraseDups.find? fun name => (last? name ms).any fun v => !v.isString

/-- it is the name of the first member, of those put together, whose value is no string -/
theorem firstOther?_eq (ms : Members) :
    firstOther? ms = ((Members.ofList ms).find? fun m => !m.2.isString).map (·.1) := by
  have hmerges := merges_collect ms
  have hvalue : ∀ m ∈ Members.ofList ms, ((last? m.1 ms).any fun v => !v.isString) = !m.2.isString := fun m hm => by
    rw [hmerges.last?_eq hm]
    rfl
  rw [firstOther?, ← hmerges.names, Assoc.names, List.find?_map]
  exact congrArg (Option.map Prod.fst) (List.find?_congr hvalue)

theorem ofValue_of_firstOther?_eq_some {ms : Members} {name : String} (h : firstOther? ms = some name) :
    ofValue (.object (Members.ofList ms)) = .error (.notPath name) := by
  rw [firstOther?_eq] at h
  obtain ⟨m, hm, rfl⟩ := Option.map_eq_some_iff.1 h
  rw [ofValue, stringPairs_of_find?_eq_some hm]
  rfl

theorem ofValue_of_firstOther?_eq_none {ms : Members} (h : firstOther? ms = none) :
    ∃ m, ofValue (.object (Members.ofList ms)) = .ok m ∧ Members.ofList ms = strings m.fields := by
  rw [firstOther?_eq, Option.map_eq_none_iff, List.find?_eq_none] at h
  obtain ⟨pairs, hpairs⟩ := exists_strings fun m hm => by simpa using h m hm
  have hfields : strings (ofPairs pairs).fields = Members.ofList ms := by
    rw [fields_ofPairs, ← ofList_strings, hpairs]
    exact Assoc.collect_of_nodup (Assoc.nodup_collect ms)
  refine ⟨ofPairs pairs, ?_, hfields.symm⟩
  rw [ofValue, ← hpairs, stringPairs_strings]
  rfl

theorem parse_of_writesObject {text : String} {ms : Members} (h : WritesObject text ms) :
    parse text = ofValue (.object (Members.ofList ms)) := by
  rw [parse, h.parse]

/-- **Field mappings.** Pairs give each name once, where it first comes, with its last path, and an object text with one
string for each pair, in the same order, gives the same mapping. Of any other object text, the flaw is the first name, in
the order in which names first come, whose last value is no string; if there is none, the names and last values of the
text are the mapping. -/
theorem parse_merges :
    (∀ pairs, Merges pairs (ofPairs pairs).fields) ∧
    (∀ pairs, WritesObject (Json.object (strings pairs)).render (strings pairs)) ∧
    (∀ pairs text, WritesObject text (strings pairs) → parse text = .ok (ofPairs pairs)) ∧
    (∀ text, (∃ ms, Json.parse text = .ok (.object ms)) ↔ ∃ ms, WritesObject text ms) ∧
    ∀ text ms, WritesObject text ms →
      (∀ name, parse text = .error (.notPath name) ↔ firstOther? ms = some name) ∧
      (firstOther? ms = none → ∃ m, parse text = .ok m ∧ Merges ms (strings m.fields)) := by
  refine ⟨fun pairs => ?_, fun pairs => ?_, fun pairs text h => ?_, fun text => ?_, fun text ms h => ?_⟩
  · rw [fields_ofPairs]
    exact merges_collect pairs
  · refine Json.writesObject_render fun m hm => ?_
    obtain ⟨p, -, rfl⟩ := List.mem_map.1 hm
    exact (Json.lossless_string p.2).mono (Nat.zero_le _)
  · rw [parse_of_writesObject h, ofList_strings, ofValue, stringPairs_strings, ← ofPairs_collect pairs]
    rfl
  · constructor
    · rintro ⟨ms', hms'⟩
      obtain ⟨ms, hms, -⟩ := Json.parse_object_iff.1 hms'
      exact ⟨ms, hms⟩
    · rintro ⟨ms, hms⟩
      exact ⟨Members.ofList ms, hms.parse⟩
  · rw [parse_of_writesObject h]
    cases hother : firstOther? ms with
    | some other =>
      rw [ofValue_of_firstOther?_eq_some hother]
      exact ⟨fun name => by simp, fun h => by cases h⟩
    | none =>
      obtain ⟨m, hm, hms⟩ := ofValue_of_firstOther?_eq_none hother
      rw [hm]
      exact ⟨fun name => by simp, fun _ => ⟨m, rfl, hms ▸ merges_collect ms⟩⟩

/-- a name that needs escapes comes twice, and values that are no strings are overwritten, or are not -/
theorem parse_merges_repeated :
    let pairs := [("a\"", "x"), ("b", "y"), ("a\"", "z")]
    let kept : Members := [("a", .number (.int 1)), ("b", .null), ("a", .string "s"), ("c", .null)]
    let overwritten : Members := [("a", .number (.int 1)), ("b", .string "t"), ("a", .string "s")]
    parse (Json.object (strings pairs)).render = .ok (ofPairs pairs) ∧
      (ofPairs pairs).fields = [("a\"", "z"), ("b", "y")] ∧
      parse (Json.object kept).render = .error (.notPath "b") ∧
      ∃ m, parse (Json.object overwritten).render = .ok m ∧ Assoc.names m.fields = ["a", "b"] := by
  intro pairs kept overwritten
  obtain ⟨-, hrender, hpairs, -, hobject⟩ := parse_merges
  have hone := (Json.lossless_int (i := 1) (by decide)).mono (Nat.zero_le (Json.Read.maxLevels - 1))
  have hnull := Json.lossless_null.mono (Nat.zero_le (Json.Read.maxLevels - 1))
  have htext := fun s => (Json.lossless_string s).mono (Nat.zero_le (Json.Read.maxLevels - 1))
  have hkept : WritesObject (Json.object kept).render kept :=
    Json.writesObject_render (by simp [kept, hone, hnull, htext])
  have hoverwritten : WritesObject (Json.object overwritten).render overwritten :=
    Json.writesObject_render (by simp [overwritten, hone, htext])
  obtain ⟨m, hm, hmerges⟩ := (hobject _ overwritten hoverwritten).2 (by decide)
  have hnames : Assoc.names m.fields = ["a", "b"] :=
    (strings_eq_iff.1 rfl).names_eq.trans (hmerges.names.trans (by decide))
  exact ⟨hpairs pairs _ (hrender pairs), by decide, ((hobject _ kept hkept).1 "b").2 (by decide), m, hm, hnames⟩

end FieldMapping

end CommentDigest
