/-
What can go wrong in a run, the words for it, and the exit status it ends the program with.
-/
import CommentDigest.Json.Fault

namespace CommentDigest

/-- what went wrong -/
inductive DigestError where
  /-- the configuration cannot be used -/
  | config (message : String)
  /-- a source of settings cannot be read; a file in the key-value format gives no words -/
  | settings (message : Option String)
  /-- the exchange with a server failed -/
  | network (message : String)
  /-- the filled-in request body is not JSON -/
  | payload (message : String)
  /-- the endpoint answered with an error of its own -/
  | endpoint (message : String)
  | invalidInput (message : String)
  | notFound (message : String)
  | internal (message : String)
  | io (message : String)
  /-- a text is not JSON, or not of the expected shape -/
  | json (e : Json.ReadError)
  | other (message : String)
  deriving DecidableEq, Repr

namespace DigestError

/-- the words for an error -/
def message : DigestError → String
  | config m => "Configuration error: " ++ m
  | settings m => "Settings error: " ++ m.getD ""
  | network m => "Network error: " ++ m
  | payload m => "Payload error: " ++ m
  | endpoint m => "LLM error: " ++ m
  | invalidInput m => "Invalid input: " ++ m
  | notFound m => "Not found: " ++ m
  | internal m => "Internal error: " ++ m
  | io m => "IO error: " ++ m
  | json e => "JSON error: " ++ e.message
  | other m => m

/-- exit status of a program that ends with the error -/
def exitCode : DigestError → Nat
  | invalidInput _ => 64
  | json _ => 65
  | payload _ => 65
  | notFound _ => 66
  | network _ => 69
  | endpoint _ => 69
  | internal _ => 70
  | other _ => 70
  | io _ => 74
  | config _ => 78
  | settings _ => 78

end DigestError

end CommentDigest
