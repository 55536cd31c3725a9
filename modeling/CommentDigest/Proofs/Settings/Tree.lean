/-
Layers over layers.

A value written at a key changes the entry of one name, the first of the key's path. A leaf under a plain name is the
entry itself from then on; a key that only begins with the name leaves a table or a list there, which is no leaf. So of a
layer that has a leaf for a name, either the leaf is left or something that no field of one value can be read from.

- `entry?_put_of_ne`, `entry?_put_leaf`: one value under a name
- `entry?_set_of_ne`, `entry?_set_through`, `hasParts_set`: one value at a path
- `KeyPath.ofText_cases`: a key is one name, or a name and more steps
- `entry?_over_leaf`: a whole layer
-/
import CommentDigest.Proofs.Assoc
import CommentDigest.Settings.Tree

namespace CommentDigest.Settings

namespace Tree

/-! ## Entries -/

theorem entries_withEntry (t : Tree) (name : String) (v : Tree) :
    (t.withEntry name v).entries = Assoc.put (· == ·) name v t.entries := by
  cases t <;> rfl

theorem entry?_withEntry_self (t : Tree) (name : String) (v : Tree) : entry? (t.withEntry name v) name = some v := by
  rw [ entry?, entries_withEntry, Assoc.find?_put_self]

theorem entry?_withEntry_of_ne {name key : String} (h : key ≠ name) (t v : Tree) :
    entry? (t.withEntry key v) name = t.entry? name := by
  rw [ entry?, entries_withEntry, Assoc.find?_put_of_ne h, entry?]

/-- a put changes the entry of its own name only -/
theorem entry?_put_of_ne {name key : String} (h : key ≠ name) (v here : Tree) :
    entry? (put key v here) name = here.entry? name := by
  cases v <;> exact entry?_withEntry_of_ne h _ _

theorem entry?_put_leaf (name : String) (origin : Option String) (v : Leaf) (here : Tree) :
    entry? (put name (.leaf origin v) here) name = some (.leaf origin v) :=
  entry?_withEntry_self _ _ _

/-- a value that has parts -/
def HasParts : Tree → Prop
  | .leaf _ _ => False
  | .list _ _ => True
  | .table _ _ => True

theorem hasParts_withEntry (t : Tree) (name : String) (v : Tree) : (t.withEntry name v).HasParts := by
  cases t <;> exact trivial

theorem hasParts_put (name : String) (v here : Tree) : (put name v here).HasParts := by
  cases v <;> exact hasParts_withEntry _ _ _

theorem hasParts_modifyItem (t : Tree) (index : Int) (f : Tree → Tree) : (t.modifyItem index f).HasParts := by
  cases t <;> exact trivial

/-! ## Paths -/

/-- a value at a path changes the entry of the path's first name only -/
theorem entry?_set_of_ne {name k : String} (h : k ≠ name) (path : KeyPath) (v here : Tree) :
    entry? (set (.name k :: path) v here) name = here.entry? name := by
  cases path with
  | nil => exact entry?_put_of_ne h v here
  | cons step path => exact entry?_withEntry_of_ne h _ _

/-- what a path leads into has parts -/
theorem hasParts_set (step : KeyStep) (path : KeyPath) (v here : Tree) : (set (step :: path) v here).HasParts := by
  cases step with
  | index n => exact hasParts_modifyItem _ _ _
  | name k =>
    cases path with
    | nil => exact hasParts_put _ _ _
    | cons step path => exact hasParts_withEntry _ _ _

theorem entry?_set_through (k : String) (step : KeyStep) (path : KeyPath) (v here : Tree) :
    ∃ w, entry? (set (.name k :: step :: path) v here) k = some w ∧ w.HasParts :=
  ⟨_, entry?_withEntry_self _ _ _, hasParts_set step path v _⟩

end Tree

/-! ## Keys -/

/-- no text but the empty one has no steps -/
theorem KeyPath.eq_nil_of_steps? {fuel : Nat} {cs : List Char} (h : steps? fuel cs = some []) : cs = [] := by
  have hcons : ∀ (step : KeyStep) (r : Option KeyPath), r.map (step :: ·) ≠ some [] := by
    intro step r
    cases r <;> simp
  rw [steps?.eq_def] at h
  split at h
  · rfl
  · cases h
  · dsimp only at h
    split_ifs at h
    exact absurd h (hcons _ _)
  · split at h
    · cases h
    · exact absurd h (hcons _ _)
  · cases h

/-- a key is one name, or a name and at least one more step -/
theorem KeyPath.ofText_cases (key : String) :
    ofText key = [.name key] ∨ ∃ k step path, ofText key = .name k :: step :: path := by
  unfold ofText
  dsimp only
  split_ifs
  · exact .inl rfl
  · split
    · rename_i steps hsteps
      cases steps with
      | cons step path => exact .inr ⟨_, step, path, rfl⟩
      | nil =>
        have hrest := eq_nil_of_steps? hsteps
        have hall : key.toList.takeWhile isNameChar = key.toList := by
          have happend := List.takeWhile_append_dropWhile (p := isNameChar) (l := key.toList)
          rwa [hrest, List.append_nil] at happend
        rw [hall, String.ofList_toList]
        exact .inl rfl
    · exact .inl rfl

/-! ## Layers -/

namespace Tree

theorem over_cons (t : Tree) (e : String × Tree) (layer : Layer) :
    t.over (e :: layer) = (set (KeyPath.ofText e.1) e.2 t).over layer := rfl

theorem over_append (t : Tree) (layer rest : Layer) : t.over (layer ++ rest) = (t.over layer).over rest :=
  List.foldl_append

/-- the entry is this leaf, or has parts -/
def LeafOrParts (origin : Option String) (v : Leaf) (entry : Option Tree) : Prop :=
  ∃ w, entry = some w ∧ (w = .leaf origin v ∨ w.HasParts)

variable {name : String} {origin : Option String} {v : Leaf}

/-- another key leaves the leaf in its place, or puts something with parts there -/
theorem leafOrParts_set {key : String} (h : key ≠ name) {t : Tree} (ht : LeafOrParts origin v (t.entry? name))
    (w : Tree) : LeafOrParts origin v ( entry? (set (KeyPath.ofText key) w t) name) := by
  rcases KeyPath.ofText_cases key with hkey | ⟨k, step, path, hkey⟩
  · rw [hkey, entry?_set_of_ne h]
    exact ht
  · rw [hkey]
    by_cases hk : k = name
    · obtain ⟨u, hu, hparts⟩ := entry?_set_through k step path w t
      rw [← hk]
      exact ⟨u, hu, .inr hparts⟩
    · rw [entry?_set_of_ne hk]
      exact ht

theorem leafOrParts_over {layer : Layer} (h : name ∉ Assoc.names layer) {t : Tree}
    (ht : LeafOrParts origin v (t.entry? name)) : LeafOrParts origin v ( entry? (t.over layer) name) := by
  induction layer generalizing t with
  | nil => exact ht
  | cons e layer ih =>
    obtain ⟨hkey, hrest⟩ := not_or.1 (mt List.mem_cons.2 h)
    rw [over_cons]
    exact ih hrest (leafOrParts_set (Ne.symm hkey) ht e.2)

/-- over a layer with a leaf under a plain name, the entry of the name is that leaf or has parts -/
theorem entry?_over_leaf {layer : Layer} (hplain : KeyPath.ofText name = [.name name])
    (hnodup : (Assoc.names layer).Nodup) (hmem : (name, .leaf origin v) ∈ layer) (t : Tree) :
    LeafOrParts origin v ( entry? (t.over layer) name) := by
  obtain ⟨before, after, rfl⟩ := List.append_of_mem hmem
  have hafter : name ∉ Assoc.names after := by
    rw [Assoc.names, List.map_append, List.map_cons] at hnodup
    exact (List.nodup_cons.1 (List.nodup_append.1 hnodup).2.1).1
  rw [over_append, over_cons]
  refine leafOrParts_over hafter ⟨_, ?_, .inl rfl⟩
  rw [hplain]
  exact entry?_put_leaf name origin v _

end Tree

end CommentDigest.Settings
