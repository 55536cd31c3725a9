/-
Setting up the log of a process.

- `Logging.setUp`: to a file or to the console alone. The file is made first, with its directory; a process can set up its
  log once
- `Logging.setUpEach`: several attempts in one process
-/
import CommentDigest.Error
import CommentDigest.Files.System
import CommentDigest.Logging.Filter

namespace CommentDigest.Logging

/-- what the log's own first line is filed under -/
def target : String := "peekaboo_common::logger"

/-- the first line of a log file -/
def firstLine (name level : String) : String :=
  LogLevel.info.text ++ " " ++ target ++ ": Logging to stderr and " ++ name ++ " at " ++ level ++ "\n"

variable {m : Type → Type} [Monad m]

/-- a refusal of the file system in the words of a step -/
def orConfig {α : Type} (step name : String) (act : m (Except FileError α)) : ExceptT DigestError m α := do
  match ← ExceptT.lift act with
  | .ok a => return a
  | .error e => throw (.config ("Failed to " ++ step ++ " " ++ name ++ ": " ++ e.message))

/-- a log file and the directory it lies in -/
def makeFile (files : FileSystem m) (name : String) : ExceptT DigestError m Unit := do
  let dir := (Files.parent? name).getD ""
  if dir ≠ "" then orConfig "create log directory" dir (files.makeDirectories dir)
  orConfig "open log file" name (files.append name "")

/-- the log of a process: to a file, if one is named, and to the console; `taken` when the process has one already -/
def setUp (files : FileSystem m) (env : Environment) (taken : Bool) (file? : Option String) (level : String) :
    ExceptT DigestError m Unit := do
  if let some name := file? then makeFile files name
  if taken then
    throw (.internal "Failed to initialize logging: a global default trace dispatcher has already been set")
  if let some name := file? then
    if (LogFilter.choose env level).allows target ["message"] .info then
      orConfig "open log file" name (files.append name (firstLine name level))

/-- attempts in one process, one after another -/
def setUpEach (files : FileSystem m) (env : Environment) :
    (taken : Bool) → List (Option String × String) → m (List (Except DigestError Unit))
  | _, [] => return []
  | taken, a :: as => do
    let r ← (setUp files env taken a.1 a.2).run
    let rest ← setUpEach files env (taken || r.isOk) as
    return r :: rest

end CommentDigest.Logging
