/-
What names lead to in a tree of files.

Names below the current directory can be written from the root, and lead to the same place.

- `FileTree.fileText?`: the text of the file that a name stands for
- `Files.parts_join`, `Files.steps_ofParts`: a name below a directory that is given by its parts
- `FileTree.resolve_join_current`: a name below the current directory
-/
import CommentDigest.Files.System
import Mathlib.Tactic.Common

namespace CommentDigest

/-! ## Names -/

namespace Files

/-- the name of something in a directory -/
structure IsEntryName (part : String) : Prop where
  nonempty : part ≠ ""
  proper : part ≠ "." ∧ part ≠ ".."
  whole : '/' ∉ part.toList

theorem parts_of_slash (pre post : String) : parts (pre ++ "/" ++ post) = parts pre ++ parts post := by
  have hsplit : (pre ++ "/" ++ post).toList.splitOn '/' = pre.toList.splitOn '/' ++ post.toList.splitOn '/' := by
    rw [String.toList_append, String.toList_append, List.append_assoc]
    exact List.splitOnP_append_cons pre.toList post.toList (beq_self_eq_true '/')
  rw [parts, hsplit, List.map_append, ← parts, ← parts]

theorem parts_ofParts {ps : List String} (h : ∀ p ∈ ps, IsEntryName p) (hne : ps ≠ []) : parts (ofParts ps) = ps := by
  have hsplit : (ofParts ps).toList.splitOn '/' = ps.map String.toList := by
    rw [ofParts, String.toList_intercalate]
    refine List.splitOn_intercalate '/' ?_ (by simpa using hne)
    intro l hl
    obtain ⟨p, hp, rfl⟩ := List.mem_map.1 hl
    exact (h p hp).whole
  rw [parts, hsplit, List.map_map]
  simp [Function.comp_def]

theorem exists_getLast?_intercalate {ls : List (List Char)} (h : ∀ l ∈ ls, l ≠ [] ∧ '/' ∉ l) (hne : ls ≠ []) :
    ∃ c, (List.intercalate ['/'] ls).getLast? = some c ∧ c ≠ '/' := by
  induction ls with
  | nil => exact absurd rfl hne
  | cons l ls ih =>
    cases ls with
    | nil =>
      obtain ⟨hl, hslash⟩ := h l List.mem_cons_self
      refine ⟨l.getLast hl, ?_, fun e => hslash (e ▸ List.getLast_mem hl)⟩
      rw [List.intercalate_singleton]
      exact List.getLast?_eq_some_getLast hl
    | cons l' ls =>
      obtain ⟨c, hlast, hc⟩ := ih (fun m hm => h m (List.mem_cons_of_mem l hm)) (List.cons_ne_nil l' ls)
      refine ⟨c, ?_, hc⟩
      rw [List.intercalate_cons_cons, List.getLast?_append, hlast, Option.some_or]

/-- the parts of a name below a directory that is given from the root -/
theorem parts_join {ps : List String} (h : ∀ p ∈ ps, IsEntryName p) {name : String} (hname : isAbsolute name = false) :
    parts (join ("/" ++ ofParts ps) name) = "" :: (ps ++ parts name) := by
  have hroot : ∀ rest : String, parts ("/" ++ rest) = "" :: parts rest := fun rest => parts_of_slash "" rest
  rw [join, hname, if_neg Bool.false_ne_true]
  by_cases hps : ps = []
  · subst hps
    rw [if_pos (.inr rfl)]
    exact hroot name
  · have hlast : ("/" ++ ofParts ps).toList.getLast? ≠ some '/' := by
      have hlists : ∀ l ∈ ps.map String.toList, l ≠ [] ∧ '/' ∉ l := by
        intro l hl
        obtain ⟨p, hp, rfl⟩ := List.mem_map.1 hl
        exact ⟨by simpa using (h p hp).nonempty, (h p hp).whole⟩
      obtain ⟨c, hc, hslash⟩ := exists_getLast?_intercalate hlists (by simpa using hps)
      rw [String.toList_append, ofParts, String.toList_intercalate, List.getLast?_append]
      intro e
      rw [show "/".toList = ['/'] from rfl, hc, Option.some_or] at e
      exact hslash (Option.some.inj e)
    have hempty : "/" ++ ofParts ps ≠ "" := by
      intro e
      have := congrArg String.toList e
      rw [String.toList_append] at this
      exact absurd this (by simp)
    rw [if_neg (not_or.2 ⟨hempty, hlast⟩), parts_of_slash, hroot, parts_ofParts h hps]
    rfl

theorem steps_ofParts {ps : List String} (h : ∀ p ∈ ps, IsEntryName p) : steps ("/" ++ ofParts ps) = ps := by
  have hroot : parts ("/" ++ ofParts ps) = "" :: parts (ofParts ps) := parts_of_slash "" (ofParts ps)
  by_cases hps : ps = []
  · subst hps
    rfl
  · rw [steps, hroot, parts_ofParts h hps, List.filter_cons_of_neg (by simp)]
    refine List.filter_eq_self.2 fun p hp => ?_
    have := (h p hp).nonempty
    have := (h p hp).proper.1
    simp_all

end Files

/-! ## Trees -/

namespace FileTree

open Files

/-- the text of the file that a name stands for -/
def fileText? (tree : FileTree) (name : String) : Option String :=
  match tree.node? name with
  | some (.file text) => some text
  | _ => none

theorem run_isFile (tree : FileTree) (name : String) :
    ((system : FileSystem (StateM FileTree)).isFile name).run tree = ((tree.fileText? name).isSome, tree) := by
  change ((((tree.node? name).map FileNode.isFile).getD false : Bool), tree) = _
  rw [fileText?]
  cases tree.node? name with
  | none => rfl
  | some node => cases node <;> rfl

theorem read_of_fileText? {tree : FileTree} {name text : String} (h : tree.fileText? name = some text) :
    tree.read name = .ok text := by
  rw [fileText?, node?] at h
  cases hplace : tree.resolve name with
  | error e => rw [hplace] at h; cases h
  | ok p =>
    rw [hplace] at h
    dsimp only at h
    cases hnode : tree.at? p with
    | none => rw [hnode] at h; cases h
    | some node =>
      rw [hnode] at h
      cases node with
      | file t =>
        simp only [read, hplace, bind, Except.bind, hnode]
        exact congrArg Except.ok (Option.some.inj h)
      | directory => cases h

/-- the current directory is there, and all that it lies in -/
structure HasCurrent (tree : FileTree) : Prop where
  part : ∀ p ∈ tree.current, IsEntryName p ∧ p.utf8ByteSize ≤ longestPart
  directory : ∀ n ≤ tree.current.length, tree.at? (tree.current.take n) = some .directory

/-- the way to the current directory can be walked -/
theorem walk_current {tree : FileTree} (h : tree.HasCurrent) (rest : List String) :
    tree.walk [] (tree.current ++ rest) = tree.walk tree.current rest := by
  have hwalk : ∀ todo done : List String, done ++ todo = tree.current →
      tree.walk done (todo ++ rest) = tree.walk tree.current rest := by
    intro todo
    induction todo with
    | nil => intro done hdone; rw [List.nil_append, ← hdone, List.append_nil]
    | cons p todo ih =>
      intro done hdone
      have hlength : done.length ≤ tree.current.length := by simp [← hdone]
      have hplace : tree.at? done = some .directory := by
        have := h.directory _ hlength
        rwa [← hdone, List.take_left] at this
      obtain ⟨hp, hsize⟩ := h.part p (by simp [← hdone])
      have hdots : ¬ (p = "" ∨ p = ".") := not_or.2 ⟨hp.nonempty, hp.proper.1⟩
      rw [List.cons_append, walk, hplace]
      dsimp only
      rw [if_neg hdots, if_neg hp.proper.2, if_neg (Nat.not_lt.2 hsize)]
      exact ih (done ++ [p]) (by rw [List.append_assoc, List.singleton_append, hdone])
  exact hwalk tree.current [] rfl

/-- a name below the current directory leads to the same place when it is written from the root -/
theorem resolve_join_current {tree : FileTree} (h : tree.HasCurrent) {name : String} (hname : isAbsolute name = false)
    (hne : name ≠ "") : tree.resolve (join tree.currentName name) = tree.resolve name := by
  have hparts : parts (join tree.currentName name) = "" :: (tree.current ++ parts name) :=
    parts_join (fun p hp => (h.part p hp).1) hname
  have habsolute : isAbsolute (join tree.currentName name) = true := by
    rw [join, hname, if_neg Bool.false_ne_true, currentName]
    split_ifs <;> simp [isAbsolute, String.toList_append]
  have hnonempty : join tree.currentName name ≠ "" := by
    intro e
    rw [e] at habsolute
    exact absurd habsolute (by decide)
  have hroot : tree.at? [] = some .directory := h.directory 0 (Nat.zero_le _)
  rw [resolve, if_neg hnonempty, habsolute, if_pos rfl, hparts, walk, hroot]
  dsimp only
  rw [if_pos (.inl rfl), walk_current h, resolve, if_neg hne, hname, if_neg Bool.false_ne_true]

theorem fileText?_join_current {tree : FileTree} (h : tree.HasCurrent) {name : String}
    (hname : isAbsolute name = false) (hne : name ≠ "") :
    tree.fileText? (join tree.currentName name) = tree.fileText? name := by
  rw [fileText?, node?, resolve_join_current h hname hne, fileText?, node?]

end FileTree

end CommentDigest
