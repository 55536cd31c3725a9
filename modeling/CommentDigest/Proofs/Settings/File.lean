/-
The settings file.

The file that a name stands for is the file of that name, or one beside the directory of that name. Its layer comes from
its text, and there is none only for one of a few reasons. Loading is this layer between the preset and the environment.

- `found`: the file that counts
- `fileFrom`, `fault_of_fileFrom`: its layer, and why there is none
- `loadFrom_eq`: loading in terms of the layer
-/
import CommentDigest.Proofs.Environment.Variables

namespace CommentDigest

namespace Settings

open FileTree

variable {tree : FileTree} {name : String}

/-! ## The file of a name -/

/-- the first of some names that stands for a file -/
def firstNamed? (tree : FileTree) (names : List (String × Format)) : Option (String × Format) :=
  names.find? fun c => (tree.fileText? c.1).isSome

/-- the names that are tried beside a directory -/
def besides (name : String) : List (String × Format) :=
  endings.map fun e => (withoutSlashes name ++ e.1, e.2)

/-- the file of a name with its form, or why there is none -/
def found (tree : FileTree) (name : String) : Except DigestError (String × Format) :=
  match tree.node? name with
  | none => .error (.config ("Settings file not found: " ++ name))
  | some (.file _) =>
    match Format.ofName? name with
    | some format => .ok (name, format)
    | none =>
      .error (.settings (some ("configuration file \"" ++ Files.join tree.currentName name ++
        "\" is not of a registered file format")))
  | some .directory =>
    match firstNamed? tree (besides name) with
    | some c => .ok c
    | none => .error (.settings (some ("configuration file \"" ++ name ++ "\" not found")))

theorem run_firstFile (tree : FileTree) (names : List (String × Format)) :
    (firstFile (system : FileSystem (StateM FileTree)) names).run tree = (firstNamed? tree names, tree) := by
  induction names with
  | nil => rfl
  | cons c names ih =>
    rw [firstFile, run_state_bind, run_isFile, firstNamed?, List.find?_cons]
    dsimp only
    cases (tree.fileText? c.1).isSome with
    | true => rfl
    | false => exact ih

theorem run_findFile (tree : FileTree) (name : String) :
    (findFile (system : FileSystem (StateM FileTree)) name).run.run tree = (found tree name, tree) := by
  have hpresent : ∀ b, (tree.node? name).isSome = b → (liftM ((system : FileSystem (StateM FileTree)).isPresent name) :
      ExceptT DigestError (StateM FileTree) Bool).run.run tree = (.ok b, tree) := by
    rintro b rfl
    rfl
  have hisFile : ∀ b, ((tree.node? name).map FileNode.isFile).getD false = b →
      (liftM ((system : FileSystem (StateM FileTree)).isFile name) :
        ExceptT DigestError (StateM FileTree) Bool).run.run tree = (.ok b, tree) := by
    rintro b rfl
    rfl
  have hfirst : (ExceptT.lift (firstFile (system : FileSystem (StateM FileTree)) (besides name)) :
      ExceptT DigestError (StateM FileTree) (Option (String × Format))).run.run tree =
        (.ok (firstNamed? tree (besides name)), tree) :=
    (run_lift _ tree).trans (by rw [run_firstFile])
  rw [findFile, found]
  cases hnode : tree.node? name with
  | none =>
    rw [run_bind_of_ok (hpresent false (by rw [hnode]; rfl))]
    rfl
  | some node =>
    rw [run_bind_of_ok (hpresent true (by rw [hnode]; rfl))]
    dsimp only
    rw [if_neg (by decide)]
    cases node with
    | file text =>
      rw [run_bind_of_ok (hisFile true (by rw [hnode]; rfl)), if_pos rfl]
      cases Format.ofName? name <;> rfl
    | directory =>
      rw [run_bind_of_ok (hisFile false (by rw [hnode]; rfl)), if_neg Bool.false_ne_true, ← besides,
        run_bind_of_ok hfirst]
      cases firstNamed? tree (besides name) <;> rfl

/-! ## Its layer -/

/-- the layer of a settings file, if one is named -/
def fileFrom (tree : FileTree) : Option String → Except DigestError Layer
  | none => .ok []
  | some name =>
    match found tree name with
    | .error e => .error e
    | .ok (file, format) =>
      match tree.read file with
      | .error e => .error (.settings (some e.message))
      | .ok text => layerOfText (Files.relative tree.currentName file) format text

theorem run_loadFile (tree : FileTree) (name : String) :
    (loadFile (system : FileSystem (StateM FileTree)) name).run.run tree = (fileFrom tree (some name), tree) := by
  rw [loadFile, fileFrom]
  cases hfound : found tree name with
  | error e =>
    exact run_bind_of_error (by rw [run_findFile, hfound])
  | ok c =>
    obtain ⟨file, format⟩ := c
    have hcurrent : (liftM (system : FileSystem (StateM FileTree)).currentName :
        ExceptT DigestError (StateM FileTree) String).run.run tree = (.ok tree.currentName, tree) := rfl
    have hread : (liftM ((system : FileSystem (StateM FileTree)).read file) :
        ExceptT DigestError (StateM FileTree) (Except FileError String)).run.run tree = (.ok (tree.read file), tree) := rfl
    rw [run_bind_of_ok (by rw [run_findFile, hfound])]
    dsimp only
    rw [run_bind_of_ok hcurrent, run_bind_of_ok hread]
    cases tree.read file <;> rfl

/-- why a named settings file gives no layer -/
inductive FileFault (tree : FileTree) (name : String) : DigestError → Prop
  | missing (hname : tree.node? name = none) : FileFault tree name (.config ("Settings file not found: " ++ name))
  | unregistered {text : String} (hname : tree.node? name = some (.file text)) (hformat : Format.ofName? name = none) :
      FileFault tree name (.settings (some ("configuration file \"" ++ Files.join tree.currentName name ++
        "\" is not of a registered file format")))
  | directory (hname : tree.node? name = some .directory) (hfile : firstNamed? tree (besides name) = none) :
      FileFault tree name (.settings (some ("configuration file \"" ++ name ++ "\" not found")))
  | json {file text : String} {e : Json.ReadError} (hfile : found tree name = .ok (file, .json))
      (htext : tree.fileText? file = some text) (hjson : Json.parse text = .error e) :
      FileFault tree name (.settings (some (e.message ++ " in " ++ Files.relative tree.currentName file)))
  | toml {file text : String} (hfile : found tree name = .ok (file, .toml)) (htext : tree.fileText? file = some text)
      (htoml : Toml.parse text = none) : FileFault tree name (.settings none)

/-- what is found is a file, and nothing is found only for these reasons -/
theorem found_cases (tree : FileTree) (name : String) :
    (∃ e, found tree name = .error e ∧ FileFault tree name e) ∨
      ∃ file format text, found tree name = .ok (file, format) ∧ tree.fileText? file = some text := by
  rw [found]
  cases hnode : tree.node? name with
  | none => exact .inl ⟨_, rfl, .missing hnode⟩
  | some node =>
    cases node with
    | file text =>
      cases hformat : Format.ofName? name with
      | none => exact .inl ⟨_, rfl, .unregistered hnode hformat⟩
      | some format => exact .inr ⟨name, format, text, rfl, by rw [fileText?, hnode]⟩
    | directory =>
      cases hfirst : firstNamed? tree (besides name) with
      | none => exact .inl ⟨_, rfl, .directory hnode hfirst⟩
      | some c =>
        obtain ⟨text, htext⟩ := Option.isSome_iff_exists.1
          (List.find?_some (p := fun c : String × Format => (tree.fileText? c.1).isSome) hfirst)
        exact .inr ⟨c.1, c.2, text, rfl, htext⟩

/-- a named file gives a layer but for these reasons -/
theorem fault_of_fileFrom {e : DigestError} (h : fileFrom tree (some name) = .error e) : FileFault tree name e := by
  rw [fileFrom] at h
  rcases found_cases tree name with ⟨e', hfound, hfault⟩ | ⟨file, format, text, hfound, htext⟩
  · rw [hfound] at h
    obtain rfl : e' = e := Except.error.inj h
    exact hfault
  · rw [hfound] at h
    simp only [read_of_fileText? htext, layerOfText] at h
    cases format with
    | json =>
      cases hjson : Json.parse text with
      | ok v => simp only [hjson] at h; cases h
      | error fault =>
        simp only [hjson] at h
        cases h
        exact .json hfound htext hjson
    | toml =>
      cases htoml : Toml.parse text with
      | some v => simp only [htoml] at h; cases h
      | none =>
        simp only [htoml] at h
        cases h
        exact .toml hfound htext htoml

/-! ## Loading -/

/-- settings come from the preset, over it the file, over it the environment with the nearest variables -/
theorem loadFrom_eq (tree : FileTree) (env : Environment) (file? : Option String) (p : Preset) :
    loadFrom tree env file? p =
      match fileFrom tree file? with
      | .error e => .error e
      | .ok file => ofSources p file (env.withText (Environment.nearestText? tree)) := by
  have henv : (ExceptT.lift (env.withNearest (system : FileSystem (StateM FileTree))) :
      ExceptT DigestError (StateM FileTree) Environment).run.run tree =
        (.ok (env.withText (Environment.nearestText? tree)), tree) :=
    (run_lift _ tree).trans (by rw [Environment.run_withNearest])
  rw [loadFrom, load, run_bind_of_ok henv]
  cases file? with
  | none =>
    have hnone : (pure [] : ExceptT DigestError (StateM FileTree) Layer).run.run tree = (.ok [], tree) := rfl
    dsimp only [fileFrom]
    rw [run_bind_of_ok hnone, run_result]
  | some name =>
    dsimp only
    cases hfile : fileFrom tree (some name) with
    | error e => rw [run_bind_of_error (by rw [run_loadFile, hfile])]
    | ok file =>
      rw [run_bind_of_ok (by rw [run_loadFile, hfile]), run_result]

end Settings

end CommentDigest
