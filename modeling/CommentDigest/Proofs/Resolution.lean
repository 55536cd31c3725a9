/-
Laws of looking up paths.

A point between two paths puts one walk behind the other, whatever the two texts are. A word with digits in brackets
behind it is the walk to the word and one more step by the digits. That step is the same as any other step: it reads the
digits as a position in an array, and as a name in an object.

- `find?_dot`: two paths with a point between them
- `find?_indexed`: a word with an index, and when the index is a position and nothing else
- `index_names_member`: an index that finds a member of an object
-/
import CommentDigest.Proofs.Addressing

namespace CommentDigest.Path

/-! ## One walk behind another -/

theorem segments_dot (p q : List Char) : segments (p ++ '.' :: q) = segments p ++ segments q := by
  simp only [segments_eq_splitOn]
  exact List.splitOnP_append_cons p q (beq_self_eq_true '.')

theorem steps_dot (p q : List Char) : steps (p ++ '.' :: q) = steps p ++ steps q := by
  rw [steps, segments_dot, List.flatMap_append, ← steps, ← steps]

/-- a walk that stops on the way stops for good -/
theorem walk_append (v : Json) (ss ts : List (List Char)) :
    walk v (ss ++ ts) = (walk v ss).bind fun w => walk w ts := by
  induction ss generalizing v with
  | nil => rfl
  | cons s ss ih =>
    rw [List.cons_append, walk, walk]
    cases child? v s with
    | none => rfl
    | some u => exact ih u

/-- **Paths are put together by points.** What stands at two paths with a point between them is what stands at the second
one below what stands at the first one, and nothing if nothing stands at the first one. The paths can be any texts. -/
theorem find?_dot (v : Json) (p q : String) : find? v (p ++ "." ++ q) = (find? v p).bind fun w => find? w q := by
  have htext : (p ++ "." ++ q).toList = p.toList ++ '.' :: q.toList := by
    rw [String.toList_append, String.toList_append, List.append_assoc]
    rfl
  rw [find?, htext, steps_dot]
  exact walk_append v _ _

/-! ## Indices -/

/-- a path without points is one segment -/
theorem segments_of_dot_notMem {cs : List Char} (h : '.' ∉ cs) : segments cs = [cs] := by
  have hdots : ∀ s ∈ [String.ofList cs], '.' ∉ s.toList := by simpa using h
  simpa using segments_join (List.cons_ne_nil _ _) hdots

theorem walk_singleton (v : Json) (s : List Char) : walk v [s] = child? v s := by
  rw [walk]
  cases child? v s <;> rfl

section

variable {path key digits : String}

theorem Indexed.dot_notMem (h : Indexed path.toList key.toList digits.toList) :
    '.' ∉ key.toList ∧ '.' ∉ path.toList := by
  have hkey : '.' ∉ key.toList := fun hc => absurd (h.word _ hc) (by decide)
  have hdigits : '.' ∉ digits.toList := fun hc => absurd (h.digit _ hc) (by decide)
  refine ⟨hkey, ?_⟩
  rw [h.text]
  simp [hkey, hdigits]

/-- a word is one step -/
theorem find?_word (h : Indexed path.toList key.toList digits.toList) (v : Json) :
    find? v key = child? v key.toList := by
  have hplain : ∀ key' digits', ¬ Indexed key.toList key' digits' := by
    intro key' digits' hindexed
    have hbracket : '[' ∈ key.toList := by
      rw [hindexed.text]
      exact List.mem_append_right _ List.mem_cons_self
    exact absurd (h.word _ hbracket) (by decide)
  rw [find?, steps, segments_of_dot_notMem h.dot_notMem.1, List.flatMap_singleton, segmentSteps_of_not_indexed hplain,
    walk_singleton]

/-- an index is one more step -/
theorem find?_of_indexed (h : Indexed path.toList key.toList digits.toList) (v : Json) :
    find? v path = (find? v key).bind fun u => child? u digits.toList := by
  have hsteps : steps path.toList = [key.toList] ++ [digits.toList] := by
    rw [steps, segments_of_dot_notMem h.dot_notMem.2, List.flatMap_singleton, segmentSteps_of_indexed h]
    rfl
  rw [find?_word h, find?, hsteps, walk_append, walk_singleton]
  exact Option.bind_congr fun u _ => walk_singleton u _

/-- digits are a position of any size: those that are no word are beyond every list whose length is one -/
theorem getElem?_word {xs : List Json} (hlen : xs.length < twoTo 64) {ds : List Char} (hne : ds ≠ [])
    (hdigit : ∀ c ∈ ds, c.isDigit = true) :
    ((Digits.word? ds).bind fun i => xs[i.toNat]?) = xs[Digits.value ds]? := by
  rw [Digits.word?_digits hne hdigit]
  split_ifs with hword
  · rw [Option.bind_some, Digits.toNat_ofNat_of_lt hword]
  · rw [Option.bind_none, List.getElem?_eq_none (by omega)]

/-- a step by digits: into an array by position, into an object by name -/
theorem child?_digits_eq_some_iff (h : Indexed path.toList key.toList digits.toList) {u : Json}
    (hlen : ∀ xs, u = .array xs → xs.length < twoTo 64) (w : Json) :
    child? u digits.toList = some w ↔
      (∃ xs, u = .array xs ∧ xs[Digits.value digits.toList]? = some w) ∨
        ∃ ms, u = .object ms ∧ Members.get? ms digits = some w := by
  cases u with
  | array xs => simp [child?, getElem?_word (hlen xs rfl) h.digits_ne h.digit]
  | object ms => simp [child?, String.ofList_toList]
  | _ => simp [child?]

/-- **A word with an index.** What stands at a word with digits in brackets behind it is either the item at the position
of the digits, if an array stands at the word, or the member that has the digits for its name, if an object does. The
digits can be of any length, and there is nothing below any other value. The index finds positions and nothing else
exactly if no object with such a member stands at the word. The length of an array is a word, as it is wherever arrays are
kept in memory. -/
theorem find?_indexed (h : Indexed path.toList key.toList digits.toList) (v : Json)
    (hlen : ∀ xs, find? v key = some (.array xs) → xs.length < twoTo 64) :
    (∀ w, find? v path = some w ↔
      (∃ xs, find? v key = some (.array xs) ∧ xs[Digits.value digits.toList]? = some w) ∨
        ∃ ms, find? v key = some (.object ms) ∧ Members.get? ms digits = some w) ∧
    ((∀ w, find? v path = some w ↔
      ∃ xs, find? v key = some (.array xs) ∧ xs[Digits.value digits.toList]? = some w) ↔
        ∀ ms, find? v key = some (.object ms) → Members.get? ms digits = none) := by
  have hstep : ∀ w, find? v path = some w ↔
      (∃ xs, find? v key = some (.array xs) ∧ xs[Digits.value digits.toList]? = some w) ∨
        ∃ ms, find? v key = some (.object ms) ∧ Members.get? ms digits = some w := by
    intro w
    rw [find?_of_indexed h]
    cases hkey : find? v key with
    | none => simp
    | some u =>
      have hbound : ∀ xs, u = .array xs → xs.length < twoTo 64 := fun xs hxs => hlen xs (by rw [hkey, hxs])
      simpa using child?_digits_eq_some_iff h hbound w
  refine ⟨hstep, fun hposition ms hms => ?_, fun hnone w => ?_⟩
  · -- a member that is found would be an item of an array
    cases hget : Members.get? ms digits with
    | none => rfl
    | some w =>
      obtain ⟨xs, hxs, -⟩ := (hposition w).1 ((hstep w).2 (.inr ⟨ms, hms, hget⟩))
      rw [hms] at hxs
      cases hxs
  · rw [hstep]
    refine ⟨fun hfound => hfound.resolve_right ?_, .inl⟩
    rintro ⟨ms, hms, hget⟩
    rw [hnone ms hms] at hget
    cases hget

end

/-- a position with zeros in front, one of more than 64 bits, and an object with a member of that name beside the array -/
theorem find?_indexed_zeros :
    let v : Json := .object [("a_1", .array [.null, .bool true]), ("b", .object [("01", .string "name")])]
    (∀ xs, find? v "a_1" = some (.array xs) → xs.length < twoTo 64) ∧
      (∀ xs, find? v "b" = some (.array xs) → xs.length < twoTo 64) ∧
      Indexed "a_1[01]".toList "a_1".toList "01".toList ∧ find? v "a_1[01]" = some (.bool true) ∧
      Indexed "a_1[18446744073709551617]".toList "a_1".toList "18446744073709551617".toList ∧
      find? v "a_1[18446744073709551617]" ≠ some (.bool true) ∧
      Indexed "b[01]".toList "b".toList "01".toList ∧ find? v "b[01]" = some (.string "name") := by
  intro v
  have harray : Indexed "a_1[01]".toList "a_1".toList "01".toList := indexed?_eq_some_iff.1 (by decide)
  have hlarge : Indexed "a_1[18446744073709551617]".toList "a_1".toList "18446744073709551617".toList :=
    indexed?_eq_some_iff.1 (by decide)
  have hobject : Indexed "b[01]".toList "b".toList "01".toList := indexed?_eq_some_iff.1 (by decide)
  have hword : find? v "a_1" = some (.array [.null, .bool true]) := by decide
  have hname : find? v "b" = some (.object [("01", .string "name")]) := by decide
  have hlen : ∀ xs, find? v "a_1" = some (.array xs) → xs.length < twoTo 64 := by
    intro xs hxs
    rw [hword] at hxs
    cases hxs
    decide
  have hnone : ∀ xs, find? v "b" = some (.array xs) → xs.length < twoTo 64 := by
    intro xs hxs
    rw [hname] at hxs
    cases hxs
  refine ⟨hlen, hnone, harray, ((find?_indexed harray v hlen).1 _).2 (.inl ⟨_, hword, by decide⟩), hlarge, ?_, hobject,
    ((find?_indexed hobject v hnone).1 _).2 (.inr ⟨_, hname, by decide⟩)⟩
  intro hfound
  rcases ((find?_indexed hlarge v hlen).1 _).1 hfound with ⟨xs, hxs, hitem⟩ | ⟨ms, hms, -⟩
  · rw [hword] at hxs
    cases hxs
    exact absurd hitem (by decide)
  · rw [hword] at hms
    cases hms

/-- An index finds a member of an object that has the digits for its name. -/
theorem index_names_member :
    ¬ ∀ (v : Json) (path key digits : String), Indexed path.toList key.toList digits.toList →
      ∀ w, find? v path = some w ↔
        ∃ xs, find? v key = some (.array xs) ∧ xs[Digits.value digits.toList]? = some w := by
  intro h
  have hindexed : Indexed "o[0]".toList "o".toList "0".toList := indexed?_eq_some_iff.1 (by decide)
  have hfound : find? (.object [("o", .object [("0", .number (.int 1))])]) "o[0]" = some (.number (.int 1)) := by decide
  obtain ⟨xs, hxs, -⟩ := (h _ "o[0]" "o" "0" hindexed _).1 hfound
  have hobject : find? (.object [("o", .object [("0", .number (.int 1))])]) "o" =
      some (.object [("0", .number (.int 1))]) := by decide
  rw [hobject] at hxs
  cases hxs

end CommentDigest.Path
