/-
What loading comes to.

Settings come from a tree field by field: a field that the tree has an entry for holds what the entry converts to, every
other one its default. Loading from the files of a tree is the preset, one layer for the settings file, and the environment
with the variables of the nearest file, which come behind its own.

- `taken_of_ofTree`, `misfit_of_ofTree`: every field, in terms of its entry
- `ofTree_of_ofSources`, `cases_of_ofSources_error`: settings that are loaded come from the layers, and pass the check
- `exists_file_of_loadFrom`: loading from a tree of files
- `prefix_environmentFrom`: no variable of the environment is changed
-/
import CommentDigest.Settings.Load
import Mathlib.Data.List.Basic
import Mathlib.Tactic.Common

namespace CommentDigest

/-! ## Actions on a state -/

section

variable {σ ε α β : Type}

theorem run_state_bind (act : StateM σ α) (f : α → StateM σ β) (t : σ) :
    (act >>= f).run t = (f (act.run t).1).run (act.run t).2 := rfl

theorem run_lift (act : StateM σ α) (t : σ) :
    (ExceptT.lift act : ExceptT ε (StateM σ) α).run.run t = (.ok (act.run t).1, (act.run t).2) := rfl

theorem run_result (r : Except ε α) (t : σ) : (ExceptT.mk (pure r) : ExceptT ε (StateM σ) α).run.run t = (r, t) := rfl

theorem run_except_bind (act : ExceptT ε (StateM σ) α) (f : α → ExceptT ε (StateM σ) β) (t : σ) :
    (act >>= f).run.run t = (ExceptT.bindCont f (act.run.run t).1).run (act.run.run t).2 := rfl

variable {act : ExceptT ε (StateM σ) α} {f : α → ExceptT ε (StateM σ) β} {t t' : σ}

theorem run_bind_of_ok {a : α} (h : act.run.run t = (.ok a, t')) : (act >>= f).run.run t = (f a).run.run t' := by
  rw [run_except_bind, h]
  rfl

theorem run_bind_of_error {e : ε} (h : act.run.run t = (.error e, t')) : (act >>= f).run.run t = (.error e, t') := by
  rw [run_except_bind, h]
  rfl

/-- what comes to a value has come to a value first -/
theorem exists_of_bind_ok {b : β} (h : ((act >>= f).run.run t).1 = .ok b) :
    ∃ a t', act.run.run t = (.ok a, t') ∧ ((f a).run.run t').1 = .ok b := by
  rcases hact : act.run.run t with ⟨r, t'⟩
  cases r with
  | ok a =>
    rw [run_bind_of_ok hact] at h
    exact ⟨a, t', rfl, h⟩
  | error e =>
    rw [run_bind_of_error hact] at h
    cases h

end

/-! ## Files of variables -/

namespace Environment

theorem prefix_setMissing (env : Environment) (name value : String) : env <+: env.setMissing name value := by
  rw [setMissing]
  split
  · exact List.prefix_refl env
  · exact List.prefix_append env _

theorem prefix_readLines (env earlier : Environment) (ls : List (List Char)) :
    env <+: readLines env earlier ls := by
  induction ls generalizing env earlier with
  | nil => exact List.prefix_refl env
  | cons l ls ih =>
    rw [readLines]
    split
    · exact List.prefix_refl env
    · exact ih env earlier
    · exact (prefix_setMissing env _ _).trans (ih _ _)

theorem prefix_withFile (env : Environment) (name : String) (tree : FileTree) :
    env <+: ((env.withFile (FileTree.system : FileSystem (StateM FileTree)) name).run tree).1 := by
  rw [withFile, run_state_bind]
  split
  · exact prefix_readLines env [] _
  · exact List.prefix_refl env

end Environment

namespace Settings

/-! ## Fields -/

/-- the field holds what the tree's entry converts to, or its old value -/
def Taken (t : Tree) (f : Field) (old new : f.kind.Value) : Prop :=
  match t.entry? f.name with
  | none => new = old
  | some v => f.kind.ofTree v = .ok new

theorem under_ok {α : Type} {step : String} {r : Except Misfit α} {a : α} (h : under step r = .ok a) : r = .ok a := by
  cases r with
  | ok b => exact h
  | error m => cases h

theorem takeField_ok {t : Tree} {s s' : Settings} {f : Field} (h : takeField t s f = .ok s') :
    Taken t f (s.get f) (s'.get f) ∧ ∀ g, g ≠ f → s'.get g = s.get g := by
  rw [takeField] at h
  rw [Taken]
  cases hentry : t.entry? f.name with
  | none =>
    rw [hentry] at h
    cases h
    exact ⟨rfl, fun g _ => rfl⟩
  | some v =>
    rw [hentry] at h
    dsimp only at h ⊢
    cases hv : under f.name (f.kind.ofTree v) with
    | error m => rw [hv] at h; cases h
    | ok a =>
      rw [hv] at h
      cases h
      rw [get_put]
      exact ⟨under_ok hv, fun g hg => get_put_of_ne s hg a⟩

/-- fields in turn: each one that is named is taken, and no other one changes -/
theorem taken_of_foldlM {t : Tree} {fields : List Field} (hnodup : fields.Nodup) {s s' : Settings}
    (h : fields.foldlM (takeField t) s = .ok s') :
    (∀ f ∈ fields, Taken t f (s.get f) (s'.get f)) ∧ ∀ f, f ∉ fields → s'.get f = s.get f := by
  induction fields generalizing s with
  | nil =>
    cases h
    exact ⟨fun f hf => absurd hf List.not_mem_nil, fun f _ => rfl⟩
  | cons g fields ih =>
    obtain ⟨hg, hfields⟩ := List.nodup_cons.1 hnodup
    rw [List.foldlM_cons] at h
    cases hstep : takeField t s g with
    | error m => rw [hstep] at h; cases h
    | ok s₁ =>
      rw [hstep] at h
      obtain ⟨htaken, hothers⟩ := takeField_ok hstep
      obtain ⟨hrest, hkept⟩ := ih hfields h
      refine ⟨fun f hf => ?_, fun f hf => ?_⟩
      · rcases List.mem_cons.1 hf with rfl | hf
        · rw [hkept f hg]
          exact htaken
        · have hne : f ≠ g := fun e => hg (e ▸ hf)
          rw [← hothers f hne]
          exact hrest f hf
      · obtain ⟨hne, hf⟩ := not_or.1 (mt List.mem_cons.2 hf)
        rw [hkept f hf, hothers f hne]

theorem taken_of_ofTree {t : Tree} {s : Settings} (h : ofTree t = .ok s) (f : Field) :
    Taken t f ((default : Settings).get f) (s.get f) :=
  (taken_of_foldlM (by decide) h).1 f (by cases f <;> decide)

theorem takeField_error {t : Tree} {s : Settings} {f : Field} {m : Misfit} (h : takeField t s f = .error m) :
    ∃ v m', t.entry? f.name = some v ∧ f.kind.ofTree v = .error m' ∧ m = m'.under f.name := by
  rw [takeField] at h
  cases hentry : t.entry? f.name with
  | none => rw [hentry] at h; cases h
  | some v =>
    rw [hentry] at h
    cases hv : f.kind.ofTree v with
    | ok a => simp only [hv] at h; cases h
    | error m' =>
      simp only [hv] at h
      exact ⟨v, m', rfl, hv, (Except.error.inj h).symm⟩

/-- a tree gives no settings only if one of its values does not fit -/
theorem misfit_of_ofTree {t : Tree} {m : Misfit} (h : ofTree t = .error m) :
    ∃ (f : Field) (v : Tree) (m' : Misfit),
      t.entry? f.name = some v ∧ f.kind.ofTree v = .error m' ∧ m = m'.under f.name := by
  rw [ofTree] at h
  generalize Field.all = fields, (default : Settings) = s at h
  induction fields generalizing s with
  | nil => cases h
  | cons f fields ih =>
    rw [List.foldlM_cons] at h
    cases hstep : takeField t s f with
    | ok s' =>
      rw [hstep] at h
      exact ih s' h
    | error m' =>
      rw [hstep] at h
      obtain rfl : m' = m := Except.error.inj h
      exact ⟨f, takeField_error hstep⟩

/-- settings are refused if a value does not fit, or by the check -/
theorem cases_of_ofSources_error {p : Preset} {file : Layer} {env : Environment} {e : DigestError}
    (h : ofSources p file env = .error e) :
    (∃ m, ofTree (Tree.ofLayers [layerOf p, file, ofEnvironment env]) = .error m ∧ e = .settings (some m.message)) ∨
      ∃ s, ofTree (Tree.ofLayers [layerOf p, file, ofEnvironment env]) = .ok s ∧ s.check = .error e := by
  rw [ofSources] at h
  cases ht : ofTree (Tree.ofLayers [layerOf p, file, ofEnvironment env]) with
  | error m =>
    rw [ht] at h
    exact .inl ⟨m, rfl, (Except.error.inj h).symm⟩
  | ok s =>
    rw [ht] at h
    cases hc : s.check with
    | ok u => simp only [hc] at h; cases h
    | error e' =>
      simp only [hc] at h
      obtain rfl : e' = e := Except.error.inj h
      exact .inr ⟨s, rfl, hc⟩

theorem ofTree_of_ofSources {p : Preset} {file : Layer} {env : Environment} {s : Settings}
    (h : ofSources p file env = .ok s) :
    ofTree (Tree.ofLayers [layerOf p, file, ofEnvironment env]) = .ok s ∧ s.check = .ok () := by
  rw [ofSources] at h
  cases ht : ofTree (Tree.ofLayers [layerOf p, file, ofEnvironment env]) with
  | error m => rw [ht] at h; cases h
  | ok s' =>
    rw [ht] at h
    cases hc : s'.check with
    | error e => simp only [hc] at h; cases h
    | ok u =>
      simp only [hc] at h
      cases h
      exact ⟨rfl, hc⟩

/-! ## Loading -/

/-- an environment with the variables of the nearest file of a tree -/
def environmentFrom (tree : FileTree) (env : Environment) : Environment :=
  ((env.withNearest (FileTree.system : FileSystem (StateM FileTree))).run tree).1

/-- the settings loaded from the files of a tree -/
def loadFrom (tree : FileTree) (env : Environment) (file? : Option String) (p : Preset) : Except DigestError Settings :=
  ((load (FileTree.system : FileSystem (StateM FileTree)) env file? p).run.run tree).1

/-- the variables of the file come behind those of the environment -/
theorem prefix_environmentFrom (tree : FileTree) (env : Environment) : env <+: environmentFrom tree env := by
  rw [environmentFrom, Environment.withNearest, run_state_bind, run_state_bind]
  split
  · exact Environment.prefix_withFile env _ _
  · exact List.prefix_refl env

/-- settings are loaded from the preset, some layer for the file, and the environment with the nearest variables -/
theorem exists_file_of_loadFrom {tree : FileTree} {env : Environment} {file? : Option String} {p : Preset} {s : Settings}
    (h : loadFrom tree env file? p = .ok s) : ∃ file, ofSources p file (environmentFrom tree env) = .ok s := by
  rw [loadFrom, load] at h
  obtain ⟨env', t, hlift, h⟩ := exists_of_bind_ok h
  rw [run_lift, Prod.mk.injEq, Except.ok.injEq] at hlift
  rw [environmentFrom, hlift.1]
  cases file? with
  | none =>
    obtain ⟨layer, t', -, h⟩ := exists_of_bind_ok h
    rw [run_result] at h
    exact ⟨layer, h⟩
  | some name =>
    obtain ⟨layer, t', -, h⟩ := exists_of_bind_ok h
    rw [run_result] at h
    exact ⟨layer, h⟩

end Settings

end CommentDigest
