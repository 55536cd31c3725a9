/-
What a file of variables adds to an environment.

The lines of the file count up to the first one that cannot be read. What they assign is found where the environment has
no value of its own, and nothing else changes. The file is the nearest one: the one in the current directory, if it has
one, else in the nearest directory that it lies in. Looking for it changes no file.

- `assigned`: the variables of the lines that count
- `get?_withText`, `mem_withText`, `once_withText`: an environment with these variables
- `nearestText?`, `run_withNearest`: the nearest file
- `nearestText?_of_current`: a file in the current directory is the nearest one
-/
import CommentDigest.Proofs.Assoc
import CommentDigest.Proofs.Files
import CommentDigest.Proofs.Settings.Loading

namespace CommentDigest

namespace Environment

/-! ## Lines -/

theorem get?_setMissing_self (env : Environment) (name value : String) :
    (env.setMissing name value).get? name = some ((env.get? name).getD value) := by
  rw [setMissing]
  cases hget : env.get? name with
  | some v => exact hget
  | none =>
    rw [get?] at hget ⊢
    rw [Assoc.find?_append, hget, Assoc.find?_cons_self]
    rfl

theorem get?_setMissing_of_ne {env : Environment} {name key : String} (h : key ≠ name) (value : String) :
    (env.setMissing key value).get? name = env.get? name := by
  rw [setMissing]
  cases env.get? key with
  | some v => rfl
  | none =>
    rw [get?, get?, Assoc.find?_append, Assoc.find?_cons_of_ne h]
    exact Option.or_none

theorem mem_setMissing {env : Environment} {name value : String} {x : String × String}
    (h : x ∈ env.setMissing name value) : x ∈ env ∨ x = (name, value) := by
  rw [setMissing] at h
  split at h
  · exact .inl h
  · exact (List.mem_append.1 h).imp_right List.mem_singleton.1

/-- no variable that counts is there twice -/
def Once (counts : String → Prop) (env : Environment) : Prop :=
  env.Pairwise fun x y => counts x.1 → x.1 ≠ y.1

theorem once_setMissing {counts : String → Prop} {env : Environment} (h : env.Once counts) (name value : String) :
    (env.setMissing name value).Once counts := by
  rw [setMissing]
  cases hget : env.get? name with
  | some v => exact h
  | none =>
    refine List.pairwise_append.2 ⟨h, List.pairwise_singleton _ _, fun x hx y hy _ hne => ?_⟩
    obtain rfl : y = (name, value) := List.mem_singleton.1 hy
    have hfound := List.find?_eq_none.1 (Option.map_eq_none_iff.1 hget) x hx
    exact hfound (by simpa using hne)

/-- the variables of lines, up to the first line that cannot be read, with the values that they are given there -/
def assigned (env earlier : Environment) : List (List Char) → Environment
  | [] => []
  | l :: ls =>
    match Line.ofText? (valueOf env earlier) l with
    | none => []
    | some .blank => assigned env earlier ls
    | some (.assign name v) =>
      (name, v) :: assigned (env.setMissing name v) (Assoc.put (· == ·) name v earlier) ls

/-- a variable has its own value, else the first one that it is assigned -/
theorem get?_readLines (env earlier : Environment) (ls : List (List Char)) (name : String) :
    (readLines env earlier ls).get? name = (env.get? name).or ((assigned env earlier ls).get? name) := by
  induction ls generalizing env earlier with
  | nil => exact Option.or_none.symm
  | cons l ls ih =>
    rw [readLines, assigned]
    rcases Line.ofText? (valueOf env earlier) l with _ | _ | ⟨key, v⟩
    · exact Option.or_none.symm
    · exact ih env earlier
    · dsimp only
      rw [ih]
      by_cases hkey : key = name
      · subst hkey
        rw [get?_setMissing_self, Option.some_or, get?, get?, Assoc.find?_cons_self]
        cases Assoc.find? (· == ·) key env <;> rfl
      · rw [get?_setMissing_of_ne hkey]
        exact congrArg _ (Assoc.find?_cons_of_ne hkey v _).symm

theorem mem_readLines {env earlier : Environment} {ls : List (List Char)} {x : String × String}
    (h : x ∈ readLines env earlier ls) : x ∈ env ∨ x ∈ assigned env earlier ls := by
  induction ls generalizing env earlier with
  | nil => exact .inl h
  | cons l ls ih =>
    rw [readLines] at h
    rw [assigned]
    rcases hline : Line.ofText? (valueOf env earlier) l with _ | _ | ⟨key, v⟩
    · rw [hline] at h
      exact .inl h
    · rw [hline] at h
      exact ih h
    · rw [hline] at h
      rcases ih h with hset | hrest
      · exact (mem_setMissing hset).imp_right fun (e : x = (key, v)) => e ▸ List.mem_cons_self
      · exact .inr (List.mem_cons_of_mem _ hrest)

theorem once_readLines {counts : String → Prop} {env : Environment} (h : env.Once counts) (earlier : Environment)
    (ls : List (List Char)) : (readLines env earlier ls).Once counts := by
  induction ls generalizing env earlier with
  | nil => exact h
  | cons l ls ih =>
    rw [readLines]
    split
    · exact h
    · exact ih h earlier
    · exact ih (once_setMissing h _ _) _

end Environment

/-! ## Files -/

namespace Environment

open FileTree

/-- the text of the nearest file of variables -/
def nearestText? (tree : FileTree) : Option String :=
  ((Files.upwards tree.currentName).map fun dir => Files.join dir fileName).findSome? tree.fileText?

theorem run_firstThat (tree : FileTree) (names : List String) :
    (firstThat (system : FileSystem (StateM FileTree)).isFile names).run tree =
      (names.find? fun name => (tree.fileText? name).isSome, tree) := by
  induction names with
  | nil => rfl
  | cons name names ih =>
    have hrun : (firstThat (system : FileSystem (StateM FileTree)).isFile (name :: names)).run tree =
        (if (((system : FileSystem (StateM FileTree)).isFile name).run tree).1 then pure (some name)
          else firstThat (system : FileSystem (StateM FileTree)).isFile names).run
            (((system : FileSystem (StateM FileTree)).isFile name).run tree).2 := rfl
    rw [hrun, run_isFile, List.find?_cons]
    cases (tree.fileText? name).isSome with
    | true => rfl
    | false => exact ih

theorem findSome?_eq_bind {α β : Type} (f : α → Option β) (xs : List α) :
    xs.findSome? f = (xs.find? fun x => (f x).isSome).bind f := by
  induction xs with
  | nil => rfl
  | cons x xs ih =>
    rw [List.findSome?_cons, List.find?_cons]
    cases hx : f x with
    | none => exact ih
    | some y => exact hx.symm

/-- an environment with what a text assigns, if there is one -/
def withText (env : Environment) (text? : Option String) : Environment :=
  match text? with
  | some text => env.withLines text
  | none => env

/-- what a text assigns, if there is one -/
def assignedBy (env : Environment) (text? : Option String) : Environment :=
  match text? with
  | some text => assigned env [] (text.toList.splitOn '\n')
  | none => []

theorem get?_withText (env : Environment) (text? : Option String) (name : String) :
    (env.withText text?).get? name = (env.get? name).or ((env.assignedBy text?).get? name) := by
  cases text? with
  | none => exact Option.or_none.symm
  | some text => exact get?_readLines env [] _ name

theorem mem_withText {env : Environment} {text? : Option String} {x : String × String} (h : x ∈ env.withText text?) :
    x ∈ env ∨ x ∈ env.assignedBy text? := by
  cases text? with
  | none => exact .inl h
  | some text => exact mem_readLines h

theorem once_withText {counts : String → Prop} {env : Environment} (h : env.Once counts) (text? : Option String) :
    (env.withText text?).Once counts := by
  cases text? with
  | none => exact h
  | some text => exact once_readLines h [] _

theorem run_withFile (env : Environment) {tree : FileTree} {name text : String} (h : tree.fileText? name = some text) :
    (env.withFile (system : FileSystem (StateM FileTree)) name).run tree = (env.withLines text, tree) := by
  have hread : ((system : FileSystem (StateM FileTree)).read name).run tree = (tree.read name, tree) := rfl
  rw [withFile, run_state_bind, hread, read_of_fileText? h]
  rfl

/-- the nearest file adds its variables, and no file is changed -/
theorem run_withNearest (env : Environment) (tree : FileTree) :
    (env.withNearest (system : FileSystem (StateM FileTree))).run tree = (env.withText (nearestText? tree), tree) := by
  have hname : (system : FileSystem (StateM FileTree)).currentName.run tree = (tree.currentName, tree) := rfl
  rw [withNearest, run_state_bind, run_state_bind, hname]
  dsimp only
  rw [run_firstThat, nearestText?, findSome?_eq_bind]
  cases hfind : List.find? (fun name => (tree.fileText? name).isSome)
      ((Files.upwards tree.currentName).map fun dir => Files.join dir fileName) with
  | none => rfl
  | some name =>
    have hsome : (tree.fileText? name).isSome = true :=
      List.find?_some (p := fun name => (tree.fileText? name).isSome) hfind
    obtain ⟨text, htext⟩ := Option.isSome_iff_exists.1 hsome
    dsimp only [Option.bind_some]
    rw [run_withFile env htext, htext]
    rfl

/-- a file of variables in the current directory is the nearest one -/
theorem nearestText?_of_current {tree : FileTree} (h : tree.HasCurrent) {text : String}
    (htext : tree.fileText? fileName = some text) : nearestText? tree = some text := by
  have hsteps : Files.steps tree.currentName = tree.current := Files.steps_ofParts fun p hp => (h.part p hp).1
  have hfirst : tree.fileText? (Files.join tree.currentName fileName) = some text := by
    rw [fileText?_join_current h (by decide) (by decide), htext]
  have hupwards : ∃ dirs, Files.upwards tree.currentName = tree.currentName :: dirs := by
    rw [Files.upwards, hsteps, List.range_succ, List.reverse_append, List.reverse_singleton, List.singleton_append,
      List.map_cons, List.take_length]
    exact ⟨_, rfl⟩
  obtain ⟨dirs, hdirs⟩ := hupwards
  rw [nearestText?, hdirs, List.map_cons, List.findSome?_cons, hfirst]

end Environment

end CommentDigest
