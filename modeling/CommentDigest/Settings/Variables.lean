/-
Settings in the environment.

A variable whose name begins with `PEEKABOO_`, in any case, gives the setting of the rest of its name in lower case. Its
text gives a boolean, an integer, a float or else a text.
-/
import CommentDigest.Environment.Basic
import CommentDigest.Settings.Tree
import CommentDigest.Text.Case
import CommentDigest.Text.Replace

namespace CommentDigest.Settings

/-- what names begin with -/
def variableStart : String := "peekaboo_"

/-- how the environment is called as a source -/
def environmentName : String := "the environment"

/-- the value that a text spells out -/
def Leaf.ofText (s : String) : Leaf :=
  if lowercase s = "true" then .bool true
  else if lowercase s = "false" then .bool false
  else
    match (Digits.signed? s.toList).filter fun n => IsInt64 n with
    | some n => .int n
    | none =>
      match Binary64.ofText? s with
      | some x => .float x
      | none => .text s

/-- the key that a variable sets -/
def variableKey? (name : String) : Option String :=
  let lower := (lowercase name).toList
  if startsWith variableStart.toList lower then some (String.ofList (lower.drop variableStart.length)) else none

/-- the settings of an environment -/
def ofEnvironment (env : Environment) : Layer :=
  Assoc.collect (· == ·) (env.filterMap fun v =>
    (variableKey? v.1).map fun key => (key, .leaf (some environmentName) (Leaf.ofText v.2)))

end CommentDigest.Settings
