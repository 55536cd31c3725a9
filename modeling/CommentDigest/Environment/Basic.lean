/-
The variables of a process.

- `Environment.ofPairs`: a repeated name keeps its first place and takes the last value
- `Environment.get?`
- `Environment.setMissing`: a variable that is there already stays as it is
-/
import CommentDigest.Assoc

namespace CommentDigest

/-- names and values, each name once -/
abbrev Environment := List (String × String)

namespace Environment

def ofPairs (pairs : List (String × String)) : Environment := Assoc.collect (· == ·) pairs

def get? (env : Environment) (name : String) : Option String := Assoc.find? (· == ·) name env

/-- one more variable, unless it is there already -/
def setMissing (env : Environment) (name value : String) : Environment :=
  match env.get? name with
  | some _ => env
  | none => env ++ [(name, value)]

end Environment

end CommentDigest
