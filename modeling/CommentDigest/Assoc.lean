/-
Lists of pairs in which a repeated name keeps its first place and takes the last value.

Names are compared by a given test `same`, so that header names can differ in case.

- `Assoc.put`: one more pair
- `Assoc.collect`: the pairs of a list, one after another
- `Assoc.find?`: the value under a name
-/

namespace CommentDigest.Assoc

variable {κ ν : Type}

/-- a new name goes last; a known one keeps its place and spelling and takes the value -/
def put (same : κ → κ → Bool) (name : κ) (v : ν) : List (κ × ν) → List (κ × ν)
  | [] => [(name, v)]
  | (k, w) :: r => if same k name then (k, v) :: r else (k, w) :: put same name v r

/-- the pairs of a list, put one after another -/
def collect (same : κ → κ → Bool) (pairs : List (κ × ν)) : List (κ × ν) :=
  pairs.foldl (fun l p => put same p.1 p.2 l) []

/-- the value of the first pair with the name -/
def find? (same : κ → κ → Bool) (name : κ) (pairs : List (κ × ν)) : Option ν :=
  (pairs.find? fun p => same p.1 name).map (·.2)

/-- the names after a `put`: unchanged when the name is known, else one more at the end -/
theorem map_fst_put [DecidableEq κ] (name : κ) (v : ν) (l : List (κ × ν)) :
    (put (· == ·) name v l).map Prod.fst = if name ∈ l.map Prod.fst then l.map Prod.fst else l.map Prod.fst ++ [name] := by
  induction l with
  | nil => simp [put]
  | cons p r ih =>
    obtain ⟨k, w⟩ := p
    by_cases h : k = name
    · simp [put, h]
    · have h' : ¬ name = k := fun e => h e.symm
      simp only [put, beq_iff_eq, h, if_false, List.map_cons, ih, List.mem_cons, h', false_or]
      split <;> simp

/-- a `put` keeps names distinct -/
theorem nodup_put [DecidableEq κ] (name : κ) (v : ν) (l : List (κ × ν)) (h : (l.map Prod.fst).Nodup) :
    ((put (· == ·) name v l).map Prod.fst).Nodup := by
  rw [map_fst_put]
  split
  · exact h
  · rename_i hn
    exact List.nodup_append.2 ⟨h, by simp, by
      intro a ha b hb e
      rw [List.mem_singleton.1 hb] at e
      exact hn (e ▸ ha)⟩

end CommentDigest.Assoc
