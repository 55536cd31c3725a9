/-
Names of variables.

Among upper-case names no two stand for the same setting, so an environment whose settings have such names, each of them
once, is a plain layer: a field has in it what the variable for the field spells out.

- `toList_lowercase`: the lower case of an upper-case name, letter by letter
- `variableKey?_injOn`: what variables stand for
- `plain_ofEnvironment`, `find?_ofEnvironment`: an environment as a layer
-/
import CommentDigest.Proofs.Environment.Variables
import CommentDigest.Proofs.Settings.Variables

namespace CommentDigest

/-! ## Upper-case names -/

/-- capital Latin letters, digits and the underscore -/
def IsUpperNameChar (c : Char) : Prop := c.isUpper = true ∨ c.isDigit = true ∨ c = '_'

instance (c : Char) : Decidable (IsUpperNameChar c) := inferInstanceAs (Decidable (_ ∨ _))

def IsUpperName (name : String) : Prop := ∀ c ∈ name.toList, IsUpperNameChar c

instance (name : String) : Decidable (IsUpperName name) := List.decidableBAll _ _

theorem toNat_lt_of_isUpperNameChar {c : Char} (h : IsUpperNameChar c) : c.toNat < 128 := by
  rcases h with h | h | rfl
  · delta Char.isUpper at h
    simp [UInt32.le_iff_toNat_le, ← Char.toNat_val] at h ⊢
    omega
  · have hnine : '9'.toNat = 57 := rfl
    have := Char.isDigit_iff_toNat.1 h
    omega
  · decide

/-- the lower-case letter is part of a name, and the letter can be told from it -/
theorem toLower_upperNameChar {c : Char} (h : IsUpperNameChar c) :
    Settings.KeyPath.isNameChar c.toLower = true ∧ c.toLower.toUpper = c := by
  have hall : ∀ n < 128, IsUpperNameChar (Char.ofNat n) →
      Settings.KeyPath.isNameChar (Char.ofNat n).toLower = true ∧ (Char.ofNat n).toLower.toUpper = Char.ofNat n := by
    decide
  have := hall c.toNat (toNat_lt_of_isUpperNameChar h)
  rw [Char.ofNat_toNat] at this
  exact this h

theorem lowerFrom_eq_map (before : List Char) {cs : List Char} (h : ∀ c ∈ cs, c.toNat < 128) :
    lowerFrom before cs = cs.map Char.toLower := by
  induction cs generalizing before with
  | nil => rfl
  | cons c cs ih =>
    have hc := h c List.mem_cons_self
    have hsigma : c.toNat ≠ 0x3A3 := by omega
    have hdotted : c.toNat ≠ 0x130 := by omega
    rw [lowerFrom, if_neg hsigma, if_neg hdotted, lowerChar, if_pos hc,
      ih _ fun d hd => h d (List.mem_cons_of_mem c hd)]
    rfl

theorem toList_lowercase {name : String} (h : IsUpperName name) :
    (lowercase name).toList = name.toList.map Char.toLower := by
  rw [lowercase, String.toList_ofList]
  exact lowerFrom_eq_map [] fun c hc => toNat_lt_of_isUpperNameChar (h c hc)

/-- upper-case names can be told from their lower case -/
theorem eq_of_lowercase_eq {a b : String} (ha : IsUpperName a) (hb : IsUpperName b) (h : lowercase a = lowercase b) :
    a = b := by
  have hback : ∀ {name : String}, IsUpperName name → (lowercase name).toList.map Char.toUpper = name.toList := by
    intro name hname
    rw [toList_lowercase hname, List.map_map]
    exact (List.map_congr_left fun c hc => (toLower_upperNameChar (hname c hc)).2).trans (List.map_id _)
  apply String.toList_injective
  rw [← hback ha, ← hback hb, h]

namespace Settings

/-! ## Keys of variables -/

theorem variableKey?_eq_some_iff (name key : String) :
    variableKey? name = some key ↔ lowercase name = variableStart ++ key := by
  have hlength : variableStart.length = variableStart.toList.length := String.length_toList.symm
  unfold variableKey? startsWith
  dsimp only
  rw [hlength]
  constructor
  · intro h
    split_ifs at h with hstart
    obtain ⟨rest, hrest⟩ := List.isPrefixOf_iff_prefix.1 hstart
    rw [← hrest, List.drop_left] at h
    apply String.toList_injective
    rw [← hrest, ← Option.some.inj h, String.toList_append, String.toList_ofList]
  · intro h
    rw [h, String.toList_append, if_pos (List.isPrefixOf_iff_prefix.2 (List.prefix_append _ _)), List.drop_left,
      String.ofList_toList]

/-- upper-case names that give the same setting are the same -/
theorem variableKey?_injOn {a b key : String} (ha : IsUpperName a) (hb : IsUpperName b)
    (hakey : variableKey? a = some key) (hbkey : variableKey? b = some key) : a = b := by
  rw [variableKey?_eq_some_iff] at hakey hbkey
  exact eq_of_lowercase_eq ha hb (hakey.trans hbkey.symm)

/-- the setting that an upper-case name gives is one name -/
theorem ofText_variableKey {name key : String} (hname : IsUpperName name) (hkey : variableKey? name = some key) :
    KeyPath.ofText key = [.name key] := by
  apply ofText_of_nameChars
  intro c hc
  have hlower : c ∈ (lowercase name).toList := by
    rw [(variableKey?_eq_some_iff name key).1 hkey, String.toList_append]
    exact List.mem_append_right _ hc
  rw [toList_lowercase hname] at hlower
  obtain ⟨d, hd, rfl⟩ := List.mem_map.1 hlower
  exact (toLower_upperNameChar (hname d hd)).1

theorem isUpperName_variableName (f : Field) : IsUpperName f.variableName := by
  cases f <;> decide +kernel

/-! ## Environments -/

/-- the variables that give settings have upper-case names, each of them once -/
structure Orderly (env : Environment) : Prop where
  upper : ∀ x ∈ env, (variableKey? x.1).isSome → IsUpperName x.1
  once : env.Once fun name => (variableKey? name).isSome

/-- the value that the text of a variable spells out -/
def spelled (v : String) : Tree := .leaf (some environmentName) (Leaf.ofText v)

/-- what a variable says about settings -/
def variableLeaf? (x : String × String) : Option (String × Tree) :=
  (variableKey? x.1).map fun key => (key, spelled x.2)

theorem variableLeaf?_eq_some_iff (x : String × String) (e : String × Tree) :
    variableLeaf? x = some e ↔ variableKey? x.1 = some e.1 ∧ e.2 = spelled x.2 := by
  rw [variableLeaf?, Option.map_eq_some_iff]
  constructor
  · rintro ⟨key, hkey, rfl⟩
    exact ⟨hkey, rfl⟩
  · rintro ⟨hkey, hv⟩
    exact ⟨e.1, hkey, Prod.ext rfl hv.symm⟩

variable {env : Environment}

theorem nodup_variables (h : Orderly env) : (Assoc.names (env.filterMap variableLeaf?)).Nodup := by
  rw [Assoc.names, List.Nodup, List.pairwise_map, List.pairwise_filterMap]
  refine h.once.imp_of_mem ?_
  intro x y hx hy hne e he e' he' hnames
  obtain ⟨hxkey, -⟩ := (variableLeaf?_eq_some_iff x e).1 he
  obtain ⟨hykey, -⟩ := (variableLeaf?_eq_some_iff y e').1 he'
  have hxsome : (variableKey? x.1).isSome := by rw [hxkey]; rfl
  have hysome : (variableKey? y.1).isSome := by rw [hykey]; rfl
  exact hne hxsome (variableKey?_injOn (h.upper x hx hxsome) (h.upper y hy hysome) hxkey (hnames ▸ hykey))

theorem ofEnvironment_eq_filterMap (h : Orderly env) : ofEnvironment env = env.filterMap variableLeaf? :=
  Assoc.collect_of_nodup (nodup_variables h)

/-- such an environment is a plain layer -/
theorem plain_ofEnvironment (h : Orderly env) : Plain (ofEnvironment env) where
  name e he := by
    rw [ofEnvironment_eq_filterMap h] at he
    obtain ⟨x, hx, hentry⟩ := List.mem_filterMap.1 he
    obtain ⟨hkey, -⟩ := (variableLeaf?_eq_some_iff x e).1 hentry
    exact ofText_variableKey (h.upper x hx (by rw [hkey]; rfl)) hkey
  flat e he := by
    rw [ofEnvironment_eq_filterMap h] at he
    obtain ⟨x, -, hentry⟩ := List.mem_filterMap.1 he
    rw [((variableLeaf?_eq_some_iff x e).1 hentry).2]
    exact id
  nodup := Assoc.nodup_collect _

theorem variableKey?_eq_name_iff {name : String} (h : (variableKey? name).isSome → IsUpperName name) (f : Field) :
    variableKey? name = some f.name ↔ name = f.variableName := by
  constructor
  · intro hkey
    exact variableKey?_injOn (h (by rw [hkey]; rfl)) (isUpperName_variableName f) hkey (variableKey?_variableName f)
  · rintro rfl
    exact variableKey?_variableName f

/-- a field has what its variable spells out -/
theorem find?_ofEnvironment (h : Orderly env) (f : Field) :
    Assoc.find? (· == ·) f.name (ofEnvironment env) = (env.get? f.variableName).map spelled := by
  rw [ofEnvironment_eq_filterMap h]
  have hupper := h.upper
  clear h
  induction env with
  | nil => rfl
  | cons x env ih =>
    obtain ⟨name, v⟩ := x
    have hname := variableKey?_eq_name_iff (hupper _ List.mem_cons_self) f
    have hrest := ih fun y hy => hupper y (List.mem_cons_of_mem _ hy)
    rw [List.filterMap_cons, Environment.get?]
    by_cases hf : name = f.variableName
    · rw [variableLeaf?, hname.2 hf, hf, Assoc.find?_cons_self]
      exact Assoc.find?_cons_self _ _ _
    · rw [Assoc.find?_cons_of_ne hf, ← Environment.get?, ← hrest]
      cases hkey : variableKey? name with
      | none => rw [variableLeaf?, hkey]; rfl
      | some key =>
        have hne : key ≠ f.name := fun e => hf (hname.1 (e ▸ hkey))
        rw [variableLeaf?, hkey]
        exact Assoc.find?_cons_of_ne hne _ _

end Settings

end CommentDigest
