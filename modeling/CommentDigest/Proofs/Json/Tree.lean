/-
JSON trees.

`PartOf w v` says that the tree `w` is `v` or lies somewhere within it. A parsed document is a tree in which no object
has a name twice, and it is no deeper than the reader's levels.

- `Json.tree_induction`: a property of all trees, from the items of an array and from the members of an object
- `PartOf`, `EveryObject`: what lies within a tree, and a property of all objects in it
- `Distinct`: no object of the tree has a name twice
- `Spells.forall_depth_le`: what the grammar spells is no deeper than its levels, and its objects have distinct names
-/
import CommentDigest.Proofs.Assoc
import CommentDigest.Proofs.Json.Grammar

namespace CommentDigest.Json

/-! ## Induction -/

/-- an array has a property when its items have it, and an object when the values of its members do -/
theorem tree_induction {motive : Json → Prop} (null : motive .null) (bool : ∀ b, motive (.bool b))
    (number : ∀ n, motive (.number n)) (string : ∀ s, motive (.string s))
    (array : ∀ xs, (∀ x ∈ xs, motive x) → motive (.array xs))
    (object : ∀ ms, (∀ m ∈ ms, motive m.2) → motive (.object ms)) : ∀ v, motive v
  | .null => null
  | .bool b => bool b
  | .number n => number n
  | .string s => string s
  | .array xs => array xs fun x hx =>
    have hlt : sizeOf x < sizeOf (Json.array xs) := Nat.lt_of_lt_of_le (List.sizeOf_lt_of_mem hx) (by simp)
    tree_induction null bool number string array object x
  | .object ms => object ms fun m hm =>
    have hlt : sizeOf m.2 < sizeOf (Json.object ms) := by
      have hm := List.sizeOf_lt_of_mem hm
      obtain ⟨k, v⟩ := m
      simp only [Prod.mk.sizeOf_spec, Json.object.sizeOf_spec] at hm ⊢
      omega
    tree_induction null bool number string array object m.2
termination_by v => sizeOf v
decreasing_by all_goals exact hlt

/-! ## Items and members -/

theorem mapStringsItems_eq_map (f : String → String) (xs : List Json) :
    mapStringsItems f xs = xs.map (mapStrings f) := by
  induction xs with
  | nil => rfl
  | cons x xs ih => rw [mapStringsItems, ih, List.map_cons]

theorem mapStringsMembers_eq_map (f : String → String) (ms : List (String × Json)) :
    mapStringsMembers f ms = ms.map fun m => (m.1, mapStrings f m.2) := by
  induction ms with
  | nil => rfl
  | cons m ms ih => rw [mapStringsMembers, ih, List.map_cons]

theorem depthItems_le {n : Nat} {xs : List Json} : depthItems xs ≤ n ↔ ∀ x ∈ xs, x.depth ≤ n := by
  induction xs with
  | nil => simp [depthItems]
  | cons x xs ih => rw [depthItems, Nat.max_le, ih, List.forall_mem_cons]

theorem depthMembers_le {n : Nat} {ms : List (String × Json)} : depthMembers ms ≤ n ↔ ∀ m ∈ ms, m.2.depth ≤ n := by
  induction ms with
  | nil => simp [depthMembers]
  | cons m ms ih => rw [depthMembers, Nat.max_le, ih, List.forall_mem_cons]

theorem depth_array_le {n : Nat} {xs : List Json} : (array xs).depth ≤ n + 1 ↔ ∀ x ∈ xs, x.depth ≤ n := by
  rw [depth, Nat.add_le_add_iff_right, depthItems_le]

theorem depth_object_le {n : Nat} {ms : List (String × Json)} :
    (object ms).depth ≤ n + 1 ↔ ∀ m ∈ ms, m.2.depth ≤ n := by
  rw [depth, Nat.add_le_add_iff_right, depthMembers_le]

theorem depth_lt_array {xs : List Json} {x : Json} (h : x ∈ xs) : x.depth < (array xs).depth := by
  rw [depth]
  exact Nat.lt_succ_of_le (depthItems_le.1 (Nat.le_refl _) x h)

theorem depth_lt_object {ms : List (String × Json)} {m : String × Json} (h : m ∈ ms) :
    m.2.depth < (object ms).depth := by
  rw [depth]
  exact Nat.lt_succ_of_le (depthMembers_le.1 (Nat.le_refl _) m h)

/-! ## Parts of a tree -/

/-- the tree, or a tree within one of its items or members -/
inductive PartOf (w : Json) : Json → Prop
  | refl : PartOf w w
  | item {xs : List Json} {x : Json} : x ∈ xs → PartOf w x → PartOf w (.array xs)
  | member {ms : List (String × Json)} {m : String × Json} : m ∈ ms → PartOf w m.2 → PartOf w (.object ms)

theorem PartOf.trans {u w v : Json} (h : PartOf u w) (h' : PartOf w v) : PartOf u v := by
  induction h' with
  | refl => exact h
  | item hx _ ih => exact .item hx ih
  | member hm _ ih => exact .member hm ih

/-- every object of the tree has the property, the tree itself included -/
def EveryObject (P : List (String × Json) → Prop) (v : Json) : Prop := ∀ ms, PartOf (.object ms) v → P ms

section EveryObject

variable {P : List (String × Json) → Prop}

theorem EveryObject.of_partOf {w v : Json} (hv : EveryObject P v) (h : PartOf w v) : EveryObject P w :=
  fun ms hms => hv ms (hms.trans h)

@[simp] theorem everyObject_null : EveryObject P .null := by rintro ms ⟨⟩

@[simp] theorem everyObject_bool (b : Bool) : EveryObject P (.bool b) := by rintro ms ⟨⟩

@[simp] theorem everyObject_number (n : Number) : EveryObject P (.number n) := by rintro ms ⟨⟩

@[simp] theorem everyObject_string (s : String) : EveryObject P (.string s) := by rintro ms ⟨⟩

@[simp] theorem everyObject_array {xs : List Json} : EveryObject P (.array xs) ↔ ∀ x ∈ xs, EveryObject P x := by
  constructor
  · exact fun h x hx ms hms => h ms (.item hx hms)
  · intro h ms hms
    cases hms with
    | item hx hw => exact h _ hx ms hw

@[simp] theorem everyObject_object {ms : List (String × Json)} :
    EveryObject P (.object ms) ↔ P ms ∧ ∀ m ∈ ms, EveryObject P m.2 := by
  constructor
  · exact fun h => ⟨h ms .refl, fun m hm us hus => h us (.member hm hus)⟩
  · rintro ⟨h, hms⟩ us hus
    cases hus with
    | refl => exact h
    | member hm hw => exact hms _ hm us hw

end EveryObject

/-- no object of the tree has a name twice -/
def Distinct (v : Json) : Prop := EveryObject (fun ms => (Assoc.names ms).Nodup) v

/-! ## What the grammar spells -/

/-- the values of a part -/
def Part.Forall (P : Json → Prop) : Part → Prop
  | .value v => P v
  | .items _ vs => ∀ v ∈ vs, P v
  | .member _ v => P v
  | .members _ ms => ∀ m ∈ ms, P m.2

theorem mem_of_mem_ofList {ms : List (String × Json)} {m : String × Json} (h : m ∈ Members.ofList ms) : m ∈ ms :=
  Assoc.mem_of_mem_collect h

/-- what is spelled is no deeper than its levels, and no object in it has a name twice -/
theorem Spells.forall_depth_le {n : Nat} {t : List Char} {p : Part} (h : Spells n t p) :
    p.Forall fun v => v.depth ≤ n ∧ Distinct v := by
  induction h with
  | blank _ _ ih => exact ih
  | null => exact ⟨Nat.zero_le _, everyObject_null⟩
  | yes | no => exact ⟨Nat.zero_le _, everyObject_bool _⟩
  | positive | negative => exact ⟨Nat.zero_le _, everyObject_number _⟩
  | string => exact ⟨Nat.zero_le _, everyObject_string _⟩
  | array _ ih =>
    exact ⟨depth_array_le.2 fun x hx => (ih x hx).1, everyObject_array.2 fun x hx => (ih x hx).2⟩
  | object _ ih =>
    have hms := fun m hm => ih m (mem_of_mem_ofList hm)
    exact ⟨depth_object_le.2 fun m hm => (hms m hm).1,
      everyObject_object.2 ⟨Assoc.nodup_collect _, fun m hm => (hms m hm).2⟩⟩
  | noItem | noMember => simp [Part.Forall]
  | firstItem _ _ ihv ihvs | nextItem _ _ ihv ihvs => exact List.forall_mem_cons.2 ⟨ihv, ihvs⟩
  | member _ _ _ ih => exact ih
  | firstMember _ _ ihm ihms | nextMember _ _ ihm ihms => exact List.forall_mem_cons.2 ⟨ihm, ihms⟩

end CommentDigest.Json
