/-
Texts given by variables.

A variable's text is read as a boolean, an integer or a float where it can be, and a field of one text takes what such a
value is written as. So the field holds the text of the variable exactly when that comes back to the text itself.

- `mem_ofEnvironment`: the leaf that a variable gives
- `loadFrom_variable`: a field of settings that were loaded with a variable for it
- `digits_not_literal`: a text of digits that is not kept
-/
import CommentDigest.Proofs.Settings.Layers
import CommentDigest.Proofs.Settings.Loading

namespace CommentDigest.Settings

/-! ## Values -/

/-- what a value is written as -/
def Leaf.plain : Leaf → String
  | .nothing => ""
  | .bool b => toString b
  | .int n => toString n
  | .float x => x.plainText
  | .text s => s

theorem Leaf.ofText_ne_nothing (v : String) : Leaf.ofText v ≠ .nothing := by
  rw [ofText]
  split_ifs
  · exact Leaf.noConfusion
  · exact Leaf.noConfusion
  · split
    · exact Leaf.noConfusion
    · split <;> exact Leaf.noConfusion

theorem toText_leaf {v : Leaf} (h : v ≠ .nothing) (origin : Option String) :
    (Tree.leaf origin v).toText = .ok v.plain := by
  cases v with
  | nothing => exact absurd rfl h
  | _ => rfl

theorem toOptionalText_leaf {v : Leaf} (h : v ≠ .nothing) (origin : Option String) :
    (Tree.leaf origin v).toOptionalText = .ok (some v.plain) := by
  cases v with
  | nothing => exact absurd rfl h
  | _ => rfl

theorem toText_of_hasParts {t : Tree} (h : t.HasParts) (s : String) : t.toText ≠ .ok s := by
  cases t with
  | leaf origin v => exact absurd h id
  | list origin items => exact fun h => nomatch h
  | table origin entries => exact fun h => nomatch h

theorem toOptionalText_of_hasParts {t : Tree} (h : t.HasParts) (o : Option String) : t.toOptionalText ≠ .ok o := by
  cases t with
  | leaf origin v => exact absurd h id
  | list origin items => exact fun h => nomatch h
  | table origin entries => exact fun h => nomatch h

/-! ## Fields of one text -/

namespace Kind

/-- its values are texts -/
def IsTextual (k : Kind) : Prop := k = .text ∨ k = .optionalText ∨ k = .optionalPath

instance (k : Kind) : Decidable k.IsTextual := inferInstanceAs (Decidable (_ ∨ _))

/-- the value is this text -/
def Holds : (k : Kind) → k.Value → String → Prop
  | .text, v, s => v = s
  | .optionalText, v, s => v = some s
  | .optionalPath, v, s => v = some s
  | _, _, _ => False

theorem Holds.unique {k : Kind} {v : k.Value} {s s' : String} (h : k.Holds v s) : k.Holds v s' ↔ s = s' := by
  cases k with
  | text => obtain rfl : v = s := h; exact Iff.rfl
  | optionalText => obtain rfl : v = some s := h; exact Option.some_inj
  | optionalPath => obtain rfl : v = some s := h; exact Option.some_inj
  | _ => exact absurd h id

theorem holds_of_ofTree_leaf {k : Kind} (hk : k.IsTextual) {origin : Option String} {v : Leaf} (hv : v ≠ .nothing)
    {a : k.Value} (h : k.ofTree (.leaf origin v) = .ok a) : k.Holds a v.plain := by
  rcases hk with rfl | rfl | rfl
  · exact (Except.ok.inj ((toText_leaf hv origin).symm.trans h)).symm
  · exact (Except.ok.inj ((toOptionalText_leaf hv origin).symm.trans h)).symm
  · exact (Except.ok.inj ((toOptionalText_leaf hv origin).symm.trans h)).symm

theorem ofTree_of_hasParts {k : Kind} (hk : k.IsTextual) {t : Tree} (ht : t.HasParts) (a : k.Value) :
    k.ofTree t ≠ .ok a := by
  rcases hk with rfl | rfl | rfl
  · exact toText_of_hasParts ht a
  · exact toOptionalText_of_hasParts ht a
  · exact toOptionalText_of_hasParts ht a

end Kind

/-- a field of one text holds what the leaf is written as, if the entry is that leaf or has parts -/
theorem holds_of_leafOrParts {t : Tree} {f : Field} {origin : Option String} {v : Leaf} {old new : f.kind.Value}
    (hf : f.kind.IsTextual) (hv : v ≠ .nothing) (hentry : Tree.LeafOrParts origin v (t.entry? f.name))
    (h : Taken t f old new) : f.kind.Holds new v.plain := by
  obtain ⟨w, hw, hleaf⟩ := hentry
  rw [Taken, hw] at h
  rcases hleaf with rfl | hparts
  · exact Kind.holds_of_ofTree_leaf hf hv h
  · exact absurd h (Kind.ofTree_of_hasParts hf hparts new)

/-! ## Variables -/

/-- the variable for a field -/
def Field.variableName (f : Field) : String := "PEEKABOO_" ++ String.ofList (f.name.toList.map Char.toUpper)

theorem variableKey?_variableName (f : Field) : variableKey? f.variableName = some f.name := by
  cases f <;> decide +kernel

/-- every variable for the field has this text, and there is one -/
structure Gives (env : Environment) (f : Field) (v : String) : Prop where
  set : (f.variableName, v) ∈ env
  only : ∀ x ∈ env, variableKey? x.1 = some f.name → x.2 = v

/-- the leaf for a field that is given -/
theorem mem_ofEnvironment {env : Environment} {f : Field} {v : String} (h : Gives env f v) :
    (f.name, .leaf (some environmentName) (Leaf.ofText v)) ∈ ofEnvironment env := by
  have hpair : (f.name, Tree.leaf (some environmentName) (Leaf.ofText v)) ∈ env.filterMap fun x =>
      (variableKey? x.1).map fun key => (key, Tree.leaf (some environmentName) (Leaf.ofText x.2)) := by
    refine List.mem_filterMap.2 ⟨_, h.set, ?_⟩
    rw [variableKey?_variableName]
    rfl
  have hkey : f.name ∈ Assoc.names (ofEnvironment env) := Assoc.mem_names_collect.2 (List.mem_map_of_mem hpair)
  obtain ⟨⟨key, w⟩, hw, hname⟩ := List.mem_map.1 hkey
  obtain rfl : key = f.name := hname
  obtain ⟨x, hx, hmade⟩ := List.mem_filterMap.1 (Assoc.mem_of_mem_collect hw)
  obtain ⟨key, hxkey, hmade⟩ := Option.map_eq_some_iff.1 hmade
  obtain ⟨rfl, rfl⟩ := Prod.mk.inj hmade
  rw [h.only x hx hxkey] at hw
  exact hw

/-- a field of one text that a variable is given for -/
theorem ofSources_variable {p : Preset} {file : Layer} {env : Environment} {s : Settings} {f : Field} {v : String}
    (h : ofSources p file env = .ok s) (hf : f.kind.IsTextual) (hv : Gives env f v) :
    f.kind.Holds (s.get f) (Leaf.ofText v).plain := by
  -- the environment is the topmost layer
  have hentry : Tree.LeafOrParts (some environmentName) (Leaf.ofText v)
      ( Tree.entry? (Tree.ofLayers [layerOf p, file, ofEnvironment env]) f.name) :=
    Tree.entry?_over_leaf (ofText_name f) (Assoc.nodup_collect _) (mem_ofEnvironment hv) _
  exact holds_of_leafOrParts hf (Leaf.ofText_ne_nothing v) hentry (taken_of_ofTree (ofTree_of_ofSources h).1 f)

/-- **A text from the environment.** Settings that are loaded with a variable for a field of one text, and no variable
with another text for it, hold what the variable's text is written as once it has been read as a boolean, an integer or a
float; whatever the preset and the settings file say. So they hold the text itself exactly if it is written that way. -/
theorem loadFrom_variable {tree : FileTree} {env : Environment} {file? : Option String} {p : Preset} {s : Settings}
    {f : Field} {v : String} (hload : loadFrom tree env file? p = .ok s) (hf : f.kind.IsTextual)
    (hset : (f.variableName, v) ∈ env)
    (honly : ∀ x ∈ environmentFrom tree env, variableKey? x.1 = some f.name → x.2 = v) :
    f.kind.Holds (s.get f) (Leaf.ofText v).plain ∧ (f.kind.Holds (s.get f) v ↔ (Leaf.ofText v).plain = v) := by
  obtain ⟨file, hfile⟩ := exists_file_of_loadFrom hload
  have hgives : Gives (environmentFrom tree env) f v := ⟨(prefix_environmentFrom tree env).subset hset, honly⟩
  have hholds := ofSources_variable hfile hf hgives
  exact ⟨hholds, hholds.unique⟩

/-- no files -/
def noFiles : FileTree := ⟨[], []⟩

/-- a key of digits -/
def digitsKey : Environment := [("PEEKABOO_API_KEY", "007")]

theorem loadFrom_digitsKey : (loadFrom noFiles digitsKey none .ollama).toOption.map (·.apiKey) = some "7" := by
  decide +kernel

theorem loadFrom_variable_digits :
    ∃ s, loadFrom noFiles digitsKey none .ollama = .ok s ∧ Field.apiKey.kind.IsTextual ∧
      (Field.apiKey.variableName, "007") ∈ digitsKey ∧
      (∀ x ∈ environmentFrom noFiles digitsKey, variableKey? x.1 = some Field.apiKey.name → x.2 = "007") ∧
      Field.apiKey.kind.Holds (s.get .apiKey) (Leaf.ofText "007").plain ∧
      (Field.apiKey.kind.Holds (s.get .apiKey) "007" ↔ (Leaf.ofText "007").plain = "007") := by
  have hone := loadFrom_digitsKey
  cases hload : loadFrom noFiles digitsKey none .ollama with
  | error e => rw [hload] at hone; cases hone
  | ok s =>
    have hset : (Field.apiKey.variableName, "007") ∈ digitsKey := by decide +kernel
    have honly : ∀ x ∈ environmentFrom noFiles digitsKey, variableKey? x.1 = some Field.apiKey.name → x.2 = "007" := by
      decide +kernel
    exact ⟨s, rfl, by decide, hset, honly, loadFrom_variable hload (by decide) hset honly⟩

/-- A text of digits with zeros in front is read as an integer, and the zeros are lost. -/
theorem digits_not_literal :
    ¬ ∀ (tree : FileTree) (env : Environment) (file? : Option String) (p : Preset) (s : Settings) (f : Field) (v : String),
      loadFrom tree env file? p = .ok s → f ∈ [.apiKey, .cookie, .prompt, .responsePath, .recordsPath, .logLevel] →
        env = [(f.variableName, v)] → f.kind.Holds (s.get f) v := by
  intro h
  have hone := loadFrom_digitsKey
  cases hload : loadFrom noFiles digitsKey none .ollama with
  | error e => rw [hload] at hone; cases hone
  | ok s =>
    rw [hload] at hone
    have hkept : s.apiKey = "007" := h noFiles digitsKey none .ollama s .apiKey "007" hload (by decide) (by decide +kernel)
    have hlost : s.apiKey = "7" := Option.some.inj hone
    exact absurd (hkept.symm.trans hlost) (by decide)

end CommentDigest.Settings
