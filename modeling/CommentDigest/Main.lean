/-
The program in its process: the words of the command line, the files of the system, its clock, standard output and
standard error.

A connection needs sockets and, for most endpoints, encryption; there are none here, so every exchange is answered as one
with a server that is out of reach.
-/
import CommentDigest.Cli.Run
import CommentDigest.Clock
import CommentDigest.Http.Exchange
import Std.Time.DateTime.Timestamp

namespace CommentDigest.Program

/-! ## Files -/

/-- the system's number for an error; some calls give it with its sign turned -/
def errorNumber (code : UInt32) : Nat := min code.toNat (twoTo 32 - code.toNat)

/-- the number and the words of an error that has them -/
def errorParts : IO.Error → Option (UInt32 × String)
  | .alreadyExists _ code words => some (code, words)
  | .noFileOrDirectory _ code words => some (code, words)
  | .permissionDenied _ code words => some (code, words)
  | .inappropriateType _ code words => some (code, words)
  | .invalidArgument _ code words => some (code, words)
  | .resourceExhausted _ code words => some (code, words)
  | .noSuchThing _ code words => some (code, words)
  | .interrupted _ code words => some (code, words)
  | .otherError code words => some (code, words)
  | .resourceBusy code words => some (code, words)
  | .unsupportedOperation code words => some (code, words)
  | .hardwareFault code words => some (code, words)
  | .unsatisfiedConstraints code words => some (code, words)
  | .illegalOperation code words => some (code, words)
  | _ => none

/-- why the system refused -/
def fileError (e : IO.Error) : FileError :=
  match errorParts e with
  | none => .other e.toString
  | some (code, words) =>
    match errorNumber code with
    | 2 => .missing
    | 17 => .taken
    | 20 => .notDirectory
    | 21 => .isDirectory
    | 36 => .longName
    | n => .other (words.capitalize ++ " (os error " ++ toString n ++ ")")

/-- a call that the system can refuse -/
def attempt {α : Type} (act : IO α) : IO (Except FileError α) := do
  match ← act.toBaseIO with
  | .ok a => return .ok a
  | .error e => return .error (fileError e)

/-- the text of a file -/
def readText (name : String) : IO (Except FileError String) := do
  match ← attempt (IO.FS.readBinFile name) with
  | .error e => return .error e
  | .ok bytes =>
    match String.fromUTF8? bytes with
    | some text => return .ok text
    | none => return .error (.other "stream did not contain valid UTF-8")

/-- the files of the system -/
def files : FileSystem IO where
  currentName := return (← IO.currentDir).toString
  isPresent name := do if name = "" then return false else ((← IO.currentDir) / name).pathExists
  isFile name := do
    if name = "" then return false
    match ← ((← IO.currentDir) / name).metadata.toBaseIO with
    | .ok data => return data.type == .file
    | .error _ => return false
  read := readText
  makeDirectories name := attempt (IO.FS.createDirAll name)
  append name text := attempt do
    let file ← IO.FS.Handle.mk name .append
    file.putStr text

/-! ## Surroundings -/

/-- no server can be reached -/
def wire : Http.Wire IO :=
  .over (.plain IO) (fun _ => return .unreachable "no connection can be made") fun seconds =>
    IO.sleep (1000 * seconds).toUInt32

/-- the time now -/
def now : IO String := do
  let time ← Std.Time.Timestamp.now
  let nanoseconds := time.toNanosecondsSinceUnixEpoch.val.toNat
  return (Instant.mk (nanoseconds / 1000000000) (nanoseconds % 1000000000)).text

def surroundings : Cli.Surroundings IO := ⟨files, wire, now⟩

/-- the variables of the process, as the system lists them: each with a null character behind it -/
def environment : IO Environment := do
  match ← readText "/proc/self/environ" with
  | .error _ => return []
  | .ok text =>
    return .ofPairs ((text.splitOn "\x00").filterMap fun entry =>
      match Cli.splitEquals entry.toList with
      | (name, some value) => some (name, value)
      | (_, none) => none)

/-! ## Help -/

/-- how the program is called -/
def usage : String :=
  "Usage: peekaboo [OPTIONS] <COMMAND>\n\nCommands:\n" ++
    String.join ((Cli.Verb.all.map Cli.Verb.name ++ [Cli.Scope.help]).map fun name => "  " ++ name ++ "\n") ++
    "\nOptions:\n" ++
    String.join (Cli.Scope.shared.map fun o => "      --" ++ o.name ++ " <VALUE>\n") ++
    "  -h, --help\n"

/-! ## The process -/

/-- one run; what it comes to is printed, and its status returned -/
def run (words : List String) : IO UInt32 := do
  let ending ← Cli.start surroundings (← environment) words
  (← IO.getStdout).putStr ending.output
  match ending with
  | .stopped .help => (← IO.getStdout).putStr usage
  | .stopped .misuse => (← IO.getStderr).putStr usage
  | _ => pure ()
  if let some complaint := ending.complaint? then (← IO.getStderr).putStrLn complaint
  return ending.status.toUInt32

end CommentDigest.Program

def main (words : List String) : IO UInt32 := CommentDigest.Program.run words
