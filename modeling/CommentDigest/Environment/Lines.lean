/-
Variables laid down in a text, one on a line.

A line is a name, an equals sign and a value. The value stands in single quotes, in double quotes, or bare up to the first
blank; pieces of all three may follow each other. Outside of single quotes a dollar sign and a name stand for the value of
a variable, and a backslash takes a quote, a dollar sign, a space or another backslash as it is. A `#` begins a comment
where a line or, behind a blank, a bare value ends.

- `Line.ofText?`: what a line says; `none` when it cannot be read
- `Environment.withLines`: the lines of a text, one after another, up to the first that cannot be read
-/
import CommentDigest.Environment.Basic
import CommentDigest.Text.Blank
import CommentDigest.Text.Letter

namespace CommentDigest

namespace Environment

/-! ## Values -/

/-- where the reader of a value stands -/
inductive ValueMode where
  | bare
  | single
  | double
  deriving DecidableEq, Repr

/-- how the name of a variable is being read -/
inductive NameMode where
  /-- behind a dollar sign -/
  | open_
  /-- in braces -/
  | braced
  deriving DecidableEq, Repr

/-- a value while it is being read; `name` is the variable being named, last letter first -/
structure ValueState where
  mode : ValueMode
  escaped : Bool
  ended : Bool
  naming : Option NameMode
  name : List Char
  output : List Char
  deriving DecidableEq, Repr

/-- what a step comes to -/
inductive ValueStep where
  | next (s : ValueState)
  /-- the rest of the line is a comment -/
  | stop (s : ValueState)
  | refused
  deriving DecidableEq, Repr

namespace ValueState

def start : ValueState := ⟨.bare, false, false, none, [], []⟩

/-- one more character of the value -/
def push (s : ValueState) (c : Char) : ValueState := { s with output := c :: s.output }

/-- the named variable's value in the place of its name -/
def substitute (value : String → String) (s : ValueState) : ValueState :=
  { s with name := [], output := (value (String.ofList s.name.reverse)).toList.reverse ++ s.output }

/-- the character behind a backslash -/
def escape (s : ValueState) (c : Char) : ValueStep :=
  let s := { s with escaped := false }
  if c = '\\' ∨ c = '\'' ∨ c = '"' ∨ c = '$' ∨ c = ' ' then .next (s.push c)
  else if c = 'n' then .next (s.push '\n')
  else .refused

/-- a character while a variable is being named -/
def stepName (value : String → String) (s : ValueState) (how : NameMode) (c : Char) : ValueState :=
  if isLetterOrDigit c then { s with name := c :: s.name }
  else
    match how with
    | .braced =>
      if c = '}' then { s.substitute value with naming := none } else { s with name := c :: s.name }
    | .open_ =>
      if c = '{' ∧ s.name = [] then { s with naming := some .braced }
      else if c = '$' then s.substitute value
      else { s.substitute value with naming := none }.push c

/-- one more character of the line -/
def step (value : String → String) (s : ValueState) (c : Char) : ValueStep :=
  if s.ended then
    if c = ' ' ∨ c = '\t' then .next s else if c = '#' then .stop s else .refused
  else if s.escaped then s.escape c
  else if s.mode = .single then
    if c = '\'' then .next { s with mode := .bare } else .next (s.push c)
  else
    match s.naming with
    | some how => .next (s.stepName value how c)
    | none =>
      if c = '$' then .next { s with naming := some .open_ }
      else if c = '\\' then .next { s with escaped := true }
      else if s.mode = .double then
        if c = '"' then .next { s with mode := .bare } else .next (s.push c)
      else if c = '\'' then .next { s with mode := .single }
      else if c = '"' then .next { s with mode := .double }
      else if c = ' ' ∨ c = '\t' then .next { s with ended := true }
      else .next (s.push c)

/-- the value, when no quote and no brace is left open -/
def finish (value : String → String) (s : ValueState) : Option String :=
  if s.naming = some .braced ∨ s.mode ≠ .bare then none
  else some (String.ofList (s.substitute value).output.reverse)

/-- the rest of a line -/
def run (value : String → String) (s : ValueState) : List Char → Option String
  | [] => s.finish value
  | c :: cs =>
    match s.step value c with
    | .next s => run value s cs
    | .stop s => s.finish value
    | .refused => none

end ValueState

/-! ## Lines -/

/-- what a line says -/
inductive Line where
  /-- nothing but blanks or a comment -/
  | blank
  | assign (name value : String)
  deriving DecidableEq, Repr

namespace Line

def skipWhite (cs : List Char) : List Char := cs.dropWhile isWhite

/-- the characters behind the first one of a name -/
def isNameChar (c : Char) : Bool := c.isAlphanum || c = '_' || c = '.'

/-- a name and the text behind it and its blanks -/
def name? (cs : List Char) : Option (String × List Char) :=
  match cs with
  | [] => none
  | c :: _ =>
    if c.isAlpha ∨ c = '_' then
      some (String.ofList (cs.takeWhile isNameChar), skipWhite (cs.dropWhile isNameChar))
    else none

/-- the text behind an equals sign -/
def behindEquals : List Char → Option (List Char)
  | '=' :: r => some r
  | _ => none

/-- a line without white space at its end; `value` gives the variables that a value may name -/
def ofText? (value : String → String) (line : List Char) : Option Line := do
  let cs := skipWhite (line.reverse.dropWhile isWhite).reverse
  if cs = [] ∨ cs.head? = some '#' then return .blank
  let (name, r) ← name? cs
  let (name, r) ←
    match behindEquals r with
    | some r => pure (name, r)
    | none =>
      if name = "export" then do
        let (name, r) ← name? r
        pure (name, ← behindEquals r)
      else none
  let r := skipWhite r
  if r = [] ∨ r.head? = some '#' then return .assign name ""
  return .assign name (← ValueState.start.run value r)

end Line

/-- the value that a name stands for: of the process first, else of an earlier line, else nothing -/
def valueOf (env earlier : Environment) (name : String) : String :=
  match env.get? name with
  | some v => v
  | none => (earlier.get? name).getD ""

/-- lines, one after another -/
def readLines (env earlier : Environment) : List (List Char) → Environment
  | [] => env
  | l :: ls =>
    match Line.ofText? (valueOf env earlier) l with
    | none => env
    | some .blank => readLines env earlier ls
    | some (.assign name v) => readLines (env.setMissing name v) (Assoc.put (· == ·) name v earlier) ls

/-- the environment with the variables of a text that it does not have yet -/
def withLines (env : Environment) (text : String) : Environment :=
  readLines env [] (text.toList.splitOn '\n')

end Environment

end CommentDigest
