/-
Files of variables, and where they are looked for.

- `Environment.withNearest`: the file in the current directory, or in the nearest directory that it lies in
- `Environment.withProject`: the file at the root of the project, which is the nearest directory that has a repository
-/
import CommentDigest.Environment.Lines
import CommentDigest.Files.System

namespace CommentDigest.Environment

variable {m : Type → Type} [Monad m]

/-- what a file of variables is called -/
def fileName : String := ".env"

/-- what is found at the root of a project -/
def rootMark : String := ".git"

/-- the first name that passes -/
def firstThat (test : String → m Bool) : List String → m (Option String)
  | [] => return none
  | n :: ns => do if ← test n then return some n else firstThat test ns

/-- the environment with the variables of a file; what cannot be read adds none -/
def withFile (files : FileSystem m) (env : Environment) (name : String) : m Environment := do
  match ← files.read name with
  | .ok text => return env.withLines text
  | .error _ => return env

def withNearest (files : FileSystem m) (env : Environment) : m Environment := do
  let names := (Files.upwards (← files.currentName)).map fun dir => Files.join dir fileName
  match ← firstThat files.isFile names with
  | some name => env.withFile files name
  | none => return env

/-- outside of any project, as `withNearest` -/
def withProject (files : FileSystem m) (env : Environment) : m Environment := do
  let dirs := Files.upwards (← files.currentName)
  match ← firstThat (fun dir => files.isPresent (Files.join dir rootMark)) dirs with
  | some root => env.withFile files (Files.join root fileName)
  | none => env.withNearest files

end CommentDigest.Environment
