/-
Walking down a tree.

Every path has a step, and every step goes down at least one level, so what stands at a path is a part of the tree that
is strictly less deep.

- `partOf_of_walk`, `depth_of_walk`: any number of steps
- `partOf_of_find?`, `depth_lt_of_find?`: a path
-/
import CommentDigest.Path
import CommentDigest.Proofs.Json.Tree

namespace CommentDigest.Path

open Json

/-! ## Steps of a path -/

theorem segments_ne_nil (cs : List Char) : segments cs ≠ [] := by
  cases cs with
  | nil => simp [segments]
  | cons c cs =>
    simp only [segments]
    split
    · simp
    · split <;> simp

theorem segmentSteps_ne_nil (segment : List Char) : segmentSteps segment ≠ [] := by
  unfold segmentSteps
  split <;> simp

/-- even the empty path is one step, to the empty name -/
theorem steps_length_pos (path : List Char) : 0 < (steps path).length := by
  obtain ⟨s, ss, hs⟩ := List.exists_cons_of_ne_nil (segments_ne_nil path)
  rw [steps, hs, List.flatMap_cons, List.length_append]
  exact Nat.add_pos_left (List.length_pos_of_ne_nil (segmentSteps_ne_nil s)) _

/-! ## Walking -/

theorem mem_of_get? {ms : Members} {name : String} {w : Json} (h : Members.get? ms name = some w) :
    ∃ m ∈ ms, m.2 = w := by
  obtain ⟨m, hm, hw⟩ := Option.map_eq_some_iff.1 h
  exact ⟨m, List.mem_of_find?_eq_some hm, hw⟩

/-- one step goes to a part, at least one level down -/
theorem partOf_of_child? {v w : Json} {step : List Char} (h : child? v step = some w) :
    PartOf w v ∧ w.depth < v.depth := by
  unfold child? at h
  split at h
  · obtain ⟨m, hm, rfl⟩ := mem_of_get? h
    exact ⟨.member hm .refl, depth_lt_object hm⟩
  · obtain ⟨i, -, hi⟩ := Option.bind_eq_some_iff.1 h
    have hx := List.mem_of_getElem? hi
    exact ⟨.item hx .refl, depth_lt_array hx⟩
  · cases h

theorem partOf_of_walk {v w : Json} {ss : List (List Char)} (h : walk v ss = some w) : PartOf w v := by
  induction ss generalizing v with
  | nil =>
    cases h
    exact .refl
  | cons s ss ih =>
    obtain ⟨u, hu, hw⟩ := Option.bind_eq_some_iff.1 h
    exact (ih hw).trans (partOf_of_child? hu).1

/-- every step goes down at least one level -/
theorem depth_of_walk {v w : Json} {ss : List (List Char)} (h : walk v ss = some w) :
    w.depth + ss.length ≤ v.depth := by
  induction ss generalizing v with
  | nil =>
    cases h
    exact Nat.le_refl _
  | cons s ss ih =>
    obtain ⟨u, hu, hw⟩ := Option.bind_eq_some_iff.1 h
    calc w.depth + (s :: ss).length = (w.depth + ss.length) + 1 := rfl
      _ ≤ u.depth + 1 := Nat.add_le_add_right (ih hw) 1
      _ ≤ v.depth := (partOf_of_child? hu).2

theorem partOf_of_find? {v w : Json} {path : String} (h : find? v path = some w) : PartOf w v := partOf_of_walk h

theorem depth_lt_of_find? {v w : Json} {path : String} (h : find? v path = some w) : w.depth < v.depth := by
  calc w.depth < w.depth + (steps path.toList).length := Nat.lt_add_of_pos_right (steps_length_pos path.toList)
    _ ≤ v.depth := depth_of_walk h

end CommentDigest.Path
