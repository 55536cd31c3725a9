/-
Layers that say one thing for each name.

A layer is plain when its keys are distinct names and none of its values is a table. Written over a tree it gives every
name that it has its own value, whole, and leaves every other name as it was. So of plain layers the highest one that
has a name decides. Settings that are written as a layer are plain.

- `ofText_identifier`: letters, digits and underscores are one name
- `entry?_over_plain`: one plain layer
- `plain_entries`, `find?_entries`: settings as a layer, those of a preset among them
- `entry?_ofLayers`: a preset, and two plain layers over it
-/
import CommentDigest.Proofs.Settings.Fields
import CommentDigest.Proofs.Settings.Tree
import CommentDigest.Settings.Load
import Mathlib.Data.List.TakeWhile

namespace CommentDigest.Settings

/-! ## Keys -/

/-- one or more Latin letters, digits and underscores -/
def IsIdentifier (key : String) : Prop :=
  key.toList ≠ [] ∧ ∀ c ∈ key.toList, c.isAlphanum = true ∨ c = '_'

instance (key : String) : Decidable (IsIdentifier key) :=
  @instDecidableAnd _ _ inferInstance (List.decidableBAll _ _)

theorem ofText_of_nameChars {key : String} (h : ∀ c ∈ key.toList, KeyPath.isNameChar c = true) :
    KeyPath.ofText key = [.name key] := by
  have htake : key.toList.takeWhile KeyPath.isNameChar = key.toList := List.takeWhile_eq_self_iff.2 h
  have hdrop : key.toList.dropWhile KeyPath.isNameChar = [] := List.dropWhile_eq_nil_iff.2 h
  unfold KeyPath.ofText
  dsimp only
  rw [htake, hdrop, String.ofList_toList]
  split_ifs
  · rfl
  · rw [KeyPath.steps?.eq_def]

/-- an identifier is one name -/
theorem ofText_identifier {key : String} (h : IsIdentifier key) : KeyPath.ofText key = [.name key] := by
  apply ofText_of_nameChars
  intro c hc
  rcases h.2 c hc with halphanum | rfl
  · simp [KeyPath.isNameChar, halphanum]
  · decide

theorem ofText_name (f : Field) : KeyPath.ofText f.name = [.name f.name] := by
  cases f <;> decide

/-! ## One layer -/

/-- a table, which would be merged into what is there -/
def Tree.IsTable : Tree → Prop
  | .leaf _ _ => False
  | .list _ _ => False
  | .table _ _ => True

instance : (t : Tree) → Decidable t.IsTable
  | .leaf _ _ => isFalse id
  | .list _ _ => isFalse id
  | .table _ _ => isTrue trivial

/-- distinct names, none of which has a table -/
structure Plain (layer : Layer) : Prop where
  name : ∀ e ∈ layer, KeyPath.ofText e.1 = [.name e.1]
  flat : ∀ e ∈ layer, ¬ e.2.IsTable
  nodup : (Assoc.names layer).Nodup

theorem Plain.tail {e : String × Tree} {layer : Layer} (h : Plain (e :: layer)) : Plain layer where
  name x hx := h.name x (List.mem_cons_of_mem e hx)
  flat x hx := h.flat x (List.mem_cons_of_mem e hx)
  nodup := (List.nodup_cons.1 h.nodup).2

namespace Tree

/-- what is no table takes the place of what was there -/
theorem entry?_put_of_not_isTable {v : Tree} (h : ¬ v.IsTable) (name : String) (here : Tree) :
    entry? (put name v here) name = some v := by
  cases v with
  | leaf origin v => exact entry?_withEntry_self _ _ _
  | list origin items => exact entry?_withEntry_self _ _ _
  | table origin entries => exact absurd trivial h

/-- a plain layer decides about its names, and about no other -/
theorem entry?_over_plain {layer : Layer} (h : Plain layer) (t : Tree) (name : String) :
    entry? (t.over layer) name = (Assoc.find? (· == ·) name layer).or (t.entry? name) := by
  induction layer generalizing t with
  | nil => rfl
  | cons e layer ih =>
    obtain ⟨key, v⟩ := e
    obtain ⟨hkey, -⟩ := List.nodup_cons.1 h.nodup
    rw [over_cons, h.name _ List.mem_cons_self, ih h.tail]
    change (Assoc.find? (· == ·) name layer).or ( entry? (put key v t) name) = _
    by_cases hname : key = name
    · subst hname
      rw [Assoc.find?_of_notMem hkey, entry?_put_of_not_isTable (h.flat _ List.mem_cons_self), Assoc.find?_cons_self]
      rfl
    · rw [entry?_put_of_ne hname, Assoc.find?_cons_of_ne hname]

end Tree

/-! ## Settings -/

theorem ofMembers_eq_map (origin : Option String) (ms : Members) :
    Tree.ofMembers origin ms = ms.map fun m => (m.1, Tree.ofJson origin m.2) := by
  induction ms with
  | nil => rfl
  | cons m ms ih => rw [Tree.ofMembers, ih, List.map_cons]

theorem ofItems_eq_map (origin : Option String) (xs : List Json) :
    Tree.ofItems origin xs = xs.map (Tree.ofJson origin) := by
  induction xs with
  | nil => rfl
  | cons x xs ih => rw [Tree.ofItems, ih, List.map_cons]

/-- settings as a layer -/
theorem entries_toJson (origin : Option String) (s : Settings) :
    (Tree.ofJson origin s.toJson).entries =
      Field.all.map fun f => (f.name, Tree.ofJson origin (f.kind.toJson (s.get f))) := by
  rw [toJson, Tree.ofJson, Tree.entries, ofMembers_eq_map, List.map_map]
  rfl

/-- no value of a field is written as an object -/
theorem not_isTable_toJson (origin : Option String) (k : Kind) (v : k.Value) :
    ¬ (Tree.ofJson origin (k.toJson v)).IsTable := by
  cases k with
  | optionalText => cases v <;> exact id
  | optionalPath => cases v <;> exact id
  | _ => exact id

theorem plain_entries (origin : Option String) (s : Settings) : Plain (Tree.ofJson origin s.toJson).entries where
  name e he := by
    rw [entries_toJson] at he
    obtain ⟨f, -, rfl⟩ := List.mem_map.1 he
    exact ofText_name f
  flat e he := by
    rw [entries_toJson] at he
    obtain ⟨f, -, rfl⟩ := List.mem_map.1 he
    exact not_isTable_toJson origin f.kind _
  nodup := by
    rw [entries_toJson, Assoc.names, List.map_map]
    exact nodup_names

/-- settings have a value for every field -/
theorem find?_entries (origin : Option String) (s : Settings) (f : Field) :
    Assoc.find? (· == ·) f.name (Tree.ofJson origin s.toJson).entries =
      some (Tree.ofJson origin (f.kind.toJson (s.get f))) := by
  rw [entries_toJson]
  exact find?_fields (fun f => Tree.ofJson origin (f.kind.toJson (s.get f))) f

/-- the value of a field in the layer of a preset -/
def presetTree (p : Preset) (f : Field) : Tree := Tree.ofJson none (f.kind.toJson ((ofPreset p).get f))

theorem plain_layerOf (p : Preset) : Plain (layerOf p) := plain_entries none (ofPreset p)

theorem find?_layerOf (p : Preset) (f : Field) :
    Assoc.find? (· == ·) f.name (layerOf p) = some (presetTree p f) := find?_entries none (ofPreset p) f

/-! ## All layers -/

/-- of a preset and two plain layers over it, the highest one that has a name decides about it -/
theorem entry?_ofLayers (p : Preset) {lower upper : Layer} (hlower : Plain lower) (hupper : Plain upper) (f : Field) :
    Tree.entry? (Tree.ofLayers [layerOf p, lower, upper]) f.name =
      some (((Assoc.find? (· == ·) f.name upper).or (Assoc.find? (· == ·) f.name lower)).getD (presetTree p f)) := by
  have hbottom : Tree.entry? (Tree.empty.over (layerOf p)) f.name = some (presetTree p f) := by
    rw [Tree.entry?_over_plain (plain_layerOf p), find?_layerOf, Option.some_or]
  change Tree.entry? (((Tree.empty.over (layerOf p)).over lower).over upper) f.name = _
  rw [Tree.entry?_over_plain hupper, Tree.entry?_over_plain hlower, hbottom, ← Option.or_assoc, Option.or_some]

end CommentDigest.Settings
