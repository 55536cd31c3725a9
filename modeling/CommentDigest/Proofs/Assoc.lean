/-
Lists of pairs with distinct names.

Which names count as the same is given by a test, an equivalence where it matters. Pairs that are collected have no two
names that count as the same: a name is spelled and placed as it first came, and its value is the last one.

- `apart_collect`, `collect_of_apart`: collecting sets names apart, and leaves names alone that are apart
- `names_collect`: which names are collected, in which order and spelling
- `find?_collect`: which values are collected
- `find?_of_mem`, `eq_of_find?_eq`: pairs whose names are apart are settled by their names and by what is found
- `find?_put_self`, `find?_put_of_ne`: what is found after one more pair, when names are compared as they are
- `find?_cons_self`, `find?_cons_of_ne`, `find?_of_notMem`: what is found in a list
- `collect_of_nodup`: pairs whose names are distinct already stay as they are
- `nodup_collect`, `mem_names_collect`, `mem_of_mem_collect`: collecting gives distinct names, the same ones, and no
  pair of its own
- `Related.collect`: a relation of the values carries over to what is collected, whatever names count as the same
-/
import CommentDigest.Assoc
import Mathlib.Data.List.Basic
import Mathlib.Data.List.Induction
import Mathlib.Tactic.Common

namespace CommentDigest.Assoc

variable {κ ν ν' : Type}

/-- the names of a list of pairs -/
def names (l : List (κ × ν)) : List κ := l.map Prod.fst

theorem names_cons (p : κ × ν) (l : List (κ × ν)) : names (p :: l) = p.1 :: names l := rfl

/-! ## Names that count as the same -/

section

variable {same : κ → κ → Bool} {name : κ} {l pairs : List (κ × ν)}

/-- no two names of a list count as the same -/
def Apart (same : κ → κ → Bool) (l : List (κ × ν)) : Prop := (names l).Pairwise fun a b => same a b = false

theorem put_of_new (h : ∀ k ∈ names l, same k name = false) (v : ν) : put same name v l = l ++ [(name, v)] := by
  induction l with
  | nil => rfl
  | cons p l ih =>
    obtain ⟨hp, hl⟩ := List.forall_mem_cons.1 h
    rw [put, if_neg (Bool.eq_false_iff.1 hp), ih hl, List.cons_append]

theorem names_put (v : ν) :
    names (put same name v l) = if (names l).any (same · name) then names l else names l ++ [name] := by
  induction l with
  | nil => rfl
  | cons p l ih =>
    obtain ⟨k, w⟩ := p
    rw [names_cons, List.any_cons]
    by_cases hk : same k name = true
    · rw [put, if_pos hk, names_cons, hk, Bool.true_or, if_pos rfl]
    · rw [put, if_neg hk, names_cons, ih, Bool.eq_false_iff.2 hk, Bool.false_or]
      split_ifs <;> rfl

/-- one more pair leaves names apart -/
theorem Apart.put (h : Apart same l) (name : κ) (v : ν) : Apart same (put same name v l) := by
  rw [Apart, names_put]
  split_ifs with hany
  · exact h
  · simp only [List.any_eq_true, not_exists, not_and, Bool.not_eq_true] at hany
    refine List.pairwise_append.2 ⟨h, List.pairwise_singleton _ _, fun a ha b hb => ?_⟩
    rw [List.mem_singleton.1 hb]
    exact hany a ha

theorem collect_concat (same : κ → κ → Bool) (pairs : List (κ × ν)) (p : κ × ν) :
    collect same (pairs ++ [p]) = Assoc.put same p.1 p.2 (collect same pairs) := by
  rw [collect, List.foldl_concat, ← collect]

/-- what is collected has no two names that count as the same -/
theorem apart_collect (same : κ → κ → Bool) (pairs : List (κ × ν)) : Apart same (collect same pairs) := by
  induction pairs using List.reverseRecOn with
  | nil => exact List.Pairwise.nil
  | append_singleton pairs p ih =>
    rw [collect_concat]
    exact ih.put p.1 p.2

/-- pairs with names apart are collected as they are -/
theorem collect_of_apart (h : Apart same pairs) : collect same pairs = pairs := by
  induction pairs using List.reverseRecOn with
  | nil => rfl
  | append_singleton pairs p ih =>
    rw [Apart, names, List.map_append, List.pairwise_append] at h
    obtain ⟨hpairs, -, hp⟩ := h
    rw [collect_concat, ih hpairs, put_of_new fun k hk => hp k hk p.1 List.mem_cons_self]

/-- behind the names that are there come the first ones of those that are new -/
theorem names_foldl_put (hsymm : ∀ a b, same a b = same b a) (pairs l : List (κ × ν)) :
    names (pairs.foldl (fun l p => put same p.1 p.2 l) l) =
      names l ++ ((names pairs).filter fun k => !(names l).any (same · k)).eraseDupsBy same := by
  induction pairs generalizing l with
  | nil => simp [names]
  | cons p pairs ih =>
    rw [List.foldl_cons, ih, names_put, names_cons]
    split_ifs with hany
    · rw [List.filter_cons_of_neg (by simpa using hany)]
    · -- from here on the new name keeps out what counts as the same
      have hkeep : (fun k => !(names l ++ [p.1]).any (same · k)) =
          fun k => decide (same k p.1 = false) && !(names l).any (same · k) := by
        funext k
        rw [List.any_append, List.any_cons, List.any_nil, hsymm k]
        cases same p.1 k <;> simp
      rw [List.filter_cons_of_pos (by simpa using hany), List.eraseDupsBy_cons, List.filter_filter, hkeep,
        List.append_assoc, List.singleton_append]

/-- **Names are collected as they first come**, in their order and in their spelling. -/
theorem names_collect (hsymm : ∀ a b, same a b = same b a) (pairs : List (κ × ν)) :
    names (collect same pairs) = (names pairs).eraseDupsBy same := by
  rw [collect, names_foldl_put hsymm]
  simp [names]

theorem find?_cons (key : κ) (p : κ × ν) (l : List (κ × ν)) :
    find? same key (p :: l) = if same p.1 key then some p.2 else find? same key l := by
  rw [find?, List.find?_cons]
  cases same p.1 key <;> rfl

/-- when names are apart, every pair is found by its name -/
theorem find?_of_mem (hrefl : ∀ a, same a a = true) (h : Apart same l) {p : κ × ν} (hp : p ∈ l) :
    find? same p.1 l = some p.2 := by
  induction l with
  | nil => cases hp
  | cons q l ih =>
    obtain ⟨hq, hl⟩ := List.pairwise_cons.1 h
    rw [find?_cons]
    rcases List.mem_cons.1 hp with rfl | hp
    · rw [if_pos (hrefl p.1)]
    · have hapart : same q.1 p.1 = false := hq p.1 (List.mem_map_of_mem hp)
      rw [if_neg (Bool.eq_false_iff.1 hapart), ih hl hp]

/-- pairs whose names are apart are settled by their names and by what is found -/
theorem eq_of_find?_eq (hrefl : ∀ a, same a a = true) {l l' : List (κ × ν)} (h : Apart same l)
    (hnames : names l = names l') (hfind : ∀ k ∈ names l, find? same k l = find? same k l') : l = l' := by
  induction l generalizing l' with
  | nil => exact (List.map_eq_nil_iff.1 hnames.symm).symm
  | cons p l ih =>
    obtain ⟨q, l', rfl, hname, hrest⟩ := List.map_eq_cons_iff.1 hnames.symm
    obtain ⟨hp, hl⟩ := List.pairwise_cons.1 h
    have hvalue := hfind p.1 List.mem_cons_self
    rw [find?_cons, find?_cons, hname, if_pos (hrefl p.1), if_pos (hrefl p.1)] at hvalue
    have htail : l = l' := by
      refine ih hl hrest.symm fun k hk => ?_
      have hother := hfind k (List.mem_cons_of_mem p.1 hk)
      rwa [find?_cons, find?_cons, hname, if_neg (Bool.eq_false_iff.1 (hp k hk)),
        if_neg (Bool.eq_false_iff.1 (hp k hk))] at hother
    rw [htail, Prod.ext hname.symm (Option.some.inj hvalue)]

theorem find?_put (hsame : Equivalence fun a b => same a b = true) (key : κ) (v : ν) :
    find? same key (put same name v l) = if same name key then some v else find? same key l := by
  induction l with
  | nil => rw [put, find?_cons]
  | cons p l ih =>
    obtain ⟨k, w⟩ := p
    by_cases hk : same k name = true
    · -- the spelling that stays is found by the same keys as the new one
      have hkey : same k key = same name key :=
        Bool.eq_iff_iff.2 ⟨fun h => hsame.trans (hsame.symm hk) h, fun h => hsame.trans hk h⟩
      rw [put, if_pos hk, find?_cons, find?_cons, hkey]
      split_ifs <;> rfl
    · rw [put, if_neg hk, find?_cons, find?_cons, ih]
      split_ifs with hkey hname
      · exact absurd (hsame.trans hkey (hsame.symm hname)) hk
      all_goals rfl

/-- **The last value is collected**, whatever the spelling of its name. -/
theorem find?_collect (hsame : Equivalence fun a b => same a b = true) (key : κ) (pairs : List (κ × ν)) :
    find? same key (collect same pairs) = find? same key pairs.reverse := by
  induction pairs using List.reverseRecOn with
  | nil => rfl
  | append_singleton pairs p ih => rw [collect_concat, find?_put hsame, ih, List.reverse_concat, find?_cons]

end

/-! ## Names compared as they are -/

section

variable [DecidableEq κ]

theorem beq_equivalence : Equivalence fun a b : κ => (a == b) = true :=
  ⟨fun a => beq_self_eq_true a, fun h => BEq.symm h, fun h h' => BEq.trans h h'⟩

theorem apart_iff_nodup {l : List (κ × ν)} : Apart (· == ·) l ↔ (names l).Nodup := by
  simp only [Apart, List.Nodup, beq_eq_false_iff_ne]

theorem mem_of_mem_put {name : κ} {v : ν} {l : List (κ × ν)} {p : κ × ν} (h : p ∈ put (· == ·) name v l) :
    p = (name, v) ∨ p ∈ l := by
  induction l with
  | nil => exact .inl (List.mem_singleton.1 h)
  | cons q l ih =>
    obtain ⟨k, w⟩ := q
    by_cases hk : k = name
    · simp only [put, beq_iff_eq, if_pos hk] at h
      rcases List.mem_cons.1 h with rfl | h
      · exact .inl (by rw [hk])
      · exact .inr (List.mem_cons_of_mem _ h)
    · simp only [put, beq_iff_eq, if_neg hk] at h
      rcases List.mem_cons.1 h with rfl | h
      · exact .inr List.mem_cons_self
      · exact (ih h).imp_right (List.mem_cons_of_mem _)

theorem mem_names_put {name k : κ} {v : ν} {l : List (κ × ν)} :
    k ∈ names (put (· == ·) name v l) ↔ k = name ∨ k ∈ names l := by
  unfold names
  rw [map_fst_put]
  split
  · rename_i h
    refine ⟨.inr, ?_⟩
    rintro (rfl | hk)
    · exact h
    · exact hk
  · rw [List.mem_append, List.mem_singleton, or_comm]

theorem find?_put_self (name : κ) (v : ν) (l : List (κ × ν)) :
    find? (· == ·) name (put (· == ·) name v l) = some v := by
  rw [find?_put beq_equivalence, if_pos (beq_self_eq_true name)]

theorem find?_put_of_ne {name key : κ} (h : key ≠ name) (v : ν) (l : List (κ × ν)) :
    find? (· == ·) name (put (· == ·) key v l) = find? (· == ·) name l := by
  rw [find?_put beq_equivalence, if_neg (by simpa using h)]

/-! ## Looking up -/

theorem find?_cons_self (name : κ) (v : ν) (l : List (κ × ν)) : find? (· == ·) name ((name, v) :: l) = some v := by
  rw [find?_cons, if_pos (beq_self_eq_true name)]

theorem find?_cons_of_ne {name key : κ} (h : key ≠ name) (v : ν) (l : List (κ × ν)) :
    find? (· == ·) name ((key, v) :: l) = find? (· == ·) name l := by
  rw [find?_cons, if_neg (by simpa using h)]

theorem find?_of_notMem {name : κ} {l : List (κ × ν)} (h : name ∉ names l) : find? (· == ·) name l = none := by
  induction l with
  | nil => rfl
  | cons p l ih =>
    obtain ⟨k, v⟩ := p
    obtain ⟨hk, hl⟩ := not_or.1 (mt List.mem_cons.2 h)
    rw [find?_cons_of_ne (Ne.symm hk), ih hl]

theorem find?_append (name : κ) (l r : List (κ × ν)) :
    find? (· == ·) name (l ++ r) = (find? (· == ·) name l).or (find? (· == ·) name r) := by
  induction l with
  | nil => rfl
  | cons p l ih =>
    obtain ⟨k, v⟩ := p
    by_cases hk : k = name
    · subst hk
      rw [List.cons_append, find?_cons_self, find?_cons_self, Option.some_or]
    · rw [List.cons_append, find?_cons_of_ne hk, find?_cons_of_ne hk, ih]

/-! ## All pairs -/

/-- the pairs put one after another into a list that is there already -/
def collectInto (l : List (κ × ν)) (pairs : List (κ × ν)) : List (κ × ν) :=
  pairs.foldl (fun l p => put (· == ·) p.1 p.2 l) l

theorem collectInto_nil (pairs : List (κ × ν)) : collectInto [] pairs = collect (· == ·) pairs := rfl

theorem collectInto_cons (l : List (κ × ν)) (p : κ × ν) (pairs : List (κ × ν)) :
    collectInto l (p :: pairs) = collectInto (put (· == ·) p.1 p.2 l) pairs := rfl

/-- pairs with distinct names are collected as they are -/
theorem collect_of_nodup {pairs : List (κ × ν)} (h : (names pairs).Nodup) : collect (· == ·) pairs = pairs :=
  collect_of_apart (apart_iff_nodup.2 h)

theorem nodup_collectInto {l pairs : List (κ × ν)} (h : (names l).Nodup) : (names (collectInto l pairs)).Nodup := by
  induction pairs generalizing l with
  | nil => exact h
  | cons p pairs ih => exact ih (nodup_put p.1 p.2 l h)

/-- what is collected has distinct names -/
theorem nodup_collect (pairs : List (κ × ν)) : (names (collect (· == ·) pairs)).Nodup :=
  nodup_collectInto (l := []) List.nodup_nil

theorem mem_of_mem_collectInto {l pairs : List (κ × ν)} {p : κ × ν} (h : p ∈ collectInto l pairs) :
    p ∈ l ∨ p ∈ pairs := by
  induction pairs generalizing l with
  | nil => exact .inl h
  | cons q pairs ih =>
    rcases ih h with hput | hp
    · rcases mem_of_mem_put hput with rfl | hl
      · exact .inr List.mem_cons_self
      · exact .inl hl
    · exact .inr (List.mem_cons_of_mem q hp)

/-- every pair collected is one of the pairs -/
theorem mem_of_mem_collect {pairs : List (κ × ν)} {p : κ × ν} (h : p ∈ collect (· == ·) pairs) : p ∈ pairs :=
  (mem_of_mem_collectInto (l := []) h).resolve_left List.not_mem_nil

/-- of all pairs with a name the last one counts -/
theorem find?_collectInto (name : κ) (l pairs : List (κ × ν)) :
    find? (· == ·) name (collectInto l pairs) =
      (find? (· == ·) name (collect (· == ·) pairs)).or (find? (· == ·) name l) := by
  induction pairs generalizing l with
  | nil => rfl
  | cons p pairs ih =>
    have hput : find? (· == ·) name (put (· == ·) p.1 p.2 l) =
        (find? (· == ·) name (put (· == ·) p.1 p.2 [])).or (find? (· == ·) name l) := by
      by_cases h : p.1 = name
      · subst h
        rw [find?_put_self, find?_put_self, Option.some_or]
      · rw [find?_put_of_ne h, find?_put_of_ne h]
        rfl
    rw [collectInto_cons, ih, hput, ← collectInto_nil (p :: pairs), collectInto_cons, ih, Option.or_assoc]

theorem mem_names_collectInto {l pairs : List (κ × ν)} {k : κ} :
    k ∈ names (collectInto l pairs) ↔ k ∈ names l ∨ k ∈ names pairs := by
  induction pairs generalizing l with
  | nil => exact ⟨.inl, fun h => h.resolve_right List.not_mem_nil⟩
  | cons p pairs ih =>
    rw [collectInto_cons, ih, mem_names_put, or_comm (a := k = p.1), or_assoc]
    simp [names]

/-- no name is lost or made up -/
theorem mem_names_collect {pairs : List (κ × ν)} {k : κ} : k ∈ names (collect (· == ·) pairs) ↔ k ∈ names pairs := by
  rw [← collectInto_nil, mem_names_collectInto]
  exact ⟨fun h => h.resolve_left List.not_mem_nil, .inr⟩

end

/-! ## Values in a relation -/

/-- two lists with the same names and related values -/
abbrev Related (R : ν → ν' → Prop) : List (κ × ν) → List (κ × ν') → Prop :=
  List.Forall₂ fun p q => p.1 = q.1 ∧ R p.2 q.2

theorem Related.put {R : ν → ν' → Prop} {l : List (κ × ν)} {l' : List (κ × ν')} (h : Related R l l')
    (same : κ → κ → Bool) (name : κ) {v : ν} {v' : ν'} (hv : R v v') :
    Related R (Assoc.put same name v l) (Assoc.put same name v' l') := by
  induction h with
  | nil => exact .cons ⟨rfl, hv⟩ .nil
  | @cons p q l l' hpq hl ih =>
    obtain ⟨k, w⟩ := p
    obtain ⟨k', w'⟩ := q
    obtain ⟨hk, hw⟩ := hpq
    obtain rfl : k = k' := hk
    simp only [Assoc.put]
    split_ifs
    · exact .cons ⟨rfl, hv⟩ hl
    · exact .cons ⟨rfl, hw⟩ ih

theorem Related.foldl_put {R : ν → ν' → Prop} (same : κ → κ → Bool) {l pairs : List (κ × ν)}
    {l' pairs' : List (κ × ν')} (hl : Related R l l') (h : Related R pairs pairs') :
    Related R (pairs.foldl (fun l p => Assoc.put same p.1 p.2 l) l)
      (pairs'.foldl (fun l p => Assoc.put same p.1 p.2 l) l') := by
  induction h generalizing l l' with
  | nil => exact hl
  | @cons p q pairs pairs' hpq _ ih =>
    rw [List.foldl_cons, List.foldl_cons, ← hpq.1]
    exact ih (hl.put same p.1 hpq.2)

/-- related values stay related when their pairs are collected -/
theorem Related.collect {R : ν → ν' → Prop} {pairs : List (κ × ν)} {pairs' : List (κ × ν')}
    (h : Related R pairs pairs') (same : κ → κ → Bool) :
    Related R (Assoc.collect same pairs) (Assoc.collect same pairs') :=
  Related.foldl_put same List.Forall₂.nil h

/-- the names that are collected do not depend on the values -/
theorem Related.names_eq {R : ν → ν' → Prop} {l : List (κ × ν)} {l' : List (κ × ν')} (h : Related R l l') :
    names l = names l' := by
  induction h with
  | nil => rfl
  | cons hpq _ ih => rw [names, names, List.map_cons, List.map_cons, hpq.1, ← names, ← names, ih]

end CommentDigest.Assoc
