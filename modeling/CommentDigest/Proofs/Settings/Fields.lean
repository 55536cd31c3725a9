/-
The names of fields.

- `mem_all`, `name_injective`: the list of fields has every field, and no two of them have one name
- `ofName?_eq_some_iff`, `ofName?_eq_none_iff`: which field a name stands for
- `find?_fields`: what is found in a list of all fields
-/
import CommentDigest.Proofs.Assoc
import CommentDigest.Settings.Field

namespace CommentDigest.Settings

theorem mem_all (f : Field) : f ∈ Field.all := by cases f <;> decide

theorem name_injective : Function.Injective Field.name := by
  intro f g h
  have hall : ∀ f ∈ Field.all, ∀ g ∈ Field.all, f.name = g.name → f = g := by decide
  exact hall f (mem_all f) g (mem_all g) h

theorem nodup_names : (Field.all.map Field.name).Nodup := by decide

theorem ofName?_eq_some_iff {name : String} {f : Field} : Field.ofName? name = some f ↔ f.name = name := by
  constructor
  · intro h
    have hname := List.find?_some h
    simpa using hname
  · rintro rfl
    unfold Field.ofName?
    cases hfind : Field.all.find? fun g => g.name == f.name with
    | none => exact absurd (List.find?_eq_none.1 hfind f (mem_all f)) (by simp)
    | some g =>
      have hname : g.name = f.name := by simpa using List.find?_some hfind
      rw [name_injective hname]

theorem ofName?_eq_none_iff {name : String} : Field.ofName? name = none ↔ ∀ f : Field, f.name ≠ name := by
  rw [Option.eq_none_iff_forall_ne_some]
  exact forall_congr' fun f => not_congr ofName?_eq_some_iff

/-- in a list of all fields every field is found -/
theorem find?_fields {ν : Type} (value : Field → ν) (f : Field) :
    Assoc.find? (· == ·) f.name (Field.all.map fun g => (g.name, value g)) = some (value f) := by
  have hfind : ∀ fields : List Field, f ∈ fields →
      Assoc.find? (· == ·) f.name (fields.map fun g => (g.name, value g)) = some (value f) := by
    intro fields hf
    induction fields with
    | nil => exact absurd hf List.not_mem_nil
    | cons g fields ih =>
      rw [List.map_cons]
      by_cases hg : g = f
      · subst hg
        exact Assoc.find?_cons_self _ _ _
      · rw [Assoc.find?_cons_of_ne fun h => hg (name_injective h)]
        exact ih ((List.mem_cons.1 hf).resolve_left (Ne.symm hg))
  exact hfind Field.all (mem_all f)

end CommentDigest.Settings
