/-
Loading settings.

- `Settings.ofSources`: the preset, over it the settings file, over it the environment; then checked
- `Settings.load`: from a file system
-/
import CommentDigest.Environment.Search
import CommentDigest.Files.System
import CommentDigest.Json.Reader
import CommentDigest.Settings.Check
import CommentDigest.Settings.Convert
import CommentDigest.Settings.Variables
import CommentDigest.Toml.Reader

namespace CommentDigest.Settings

/-! ## Sources -/

/-- the settings of a preset as a layer -/
def layerOf (p : Preset) : Layer := (Tree.ofJson none (ofPreset p).toJson).entries

/-- the forms of a settings file -/
inductive Format where
  | json
  | toml
  deriving DecidableEq, Repr

/-- the form that goes with a file name -/
def Format.ofName? (name : String) : Option Format :=
  match Files.extension name with
  | "json" => some .json
  | "toml" => some .toml
  | _ => none

/-- a settings file as a layer; what is not a table of settings counts as empty -/
def layerOfText (source : String) (format : Format) (text : String) : Except DigestError Layer :=
  match format with
  | .json =>
    match Json.parse text with
    | .ok v => .ok (Tree.ofJson (some source) v).entries
    | .error e => .error (.settings (some (e.message ++ " in " ++ source)))
  | .toml =>
    match Toml.parse text with
    | some v => .ok (Tree.ofJson (some source) v).entries
    | none => .error (.settings none)

/-- the settings that a preset, a settings file and an environment give, if they can be used -/
def ofSources (p : Preset) (file : Layer) (env : Environment) : Except DigestError Settings :=
  match ofTree (Tree.ofLayers [layerOf p, file, ofEnvironment env]) with
  | .error misfit => .error (.settings (some misfit.message))
  | .ok s => do
    s.check
    return s

/-! ## Files -/

variable {m : Type → Type} [Monad m]

/-- the endings that are tried behind the name of a directory -/
def endings : List (String × Format) := [(".toml", .toml), (".json", .json)]

/-- the first file among names -/
def firstFile (files : FileSystem m) : List (String × Format) → m (Option (String × Format))
  | [] => return none
  | c :: cs => do
    if ← files.isFile c.1 then return some c
    firstFile files cs

/-- the settings file that a name stands for: itself, or beside a directory one with an ending -/
def findFile (files : FileSystem m) (name : String) : ExceptT DigestError m (String × Format) := do
  if !(← files.isPresent name) then throw (.config ("Settings file not found: " ++ name))
  if ← files.isFile name then
    match Format.ofName? name with
    | some format => return (name, format)
    | none =>
      let full := Files.join (← files.currentName) name
      throw (.settings (some ("configuration file \"" ++ full ++ "\" is not of a registered file format")))
  else
    let stem := FileTree.withoutSlashes name
    match ← ExceptT.lift (firstFile files (endings.map fun e => (stem ++ e.1, e.2))) with
    | some found => return found
    | none => throw (.settings (some ("configuration file \"" ++ name ++ "\" not found")))

/-- the layer of a settings file -/
def loadFile (files : FileSystem m) (name : String) : ExceptT DigestError m Layer := do
  let (name, format) ← findFile files name
  let source := Files.relative (← files.currentName) name
  match ← files.read name with
  | .ok text => ExceptT.mk (pure (layerOfText source format text))
  | .error e => throw (.settings (some e.message))

/-- settings from a preset, a settings file when one is named, the environment and the nearest file of variables -/
def load (files : FileSystem m) (env : Environment) (file? : Option String) (p : Preset) :
    ExceptT DigestError m Settings := do
  let env ← ExceptT.lift (env.withNearest files)
  let layer ← match file? with
    | some name => loadFile files name
    | none => pure []
  ExceptT.mk (pure (ofSources p layer env))

end CommentDigest.Settings
