/-
Which lines are logged.

A filter is a list of directives with commas between them. A directive is a level for everything, a target with or without
a level, or a target with a span and fields in brackets; without a level it lets everything through. A line is judged by
the directive that says most about it: the one with the longest target that its target begins with, and then the one that
names more of its fields. Directives that depend on a span or on the value of a field never apply to a line outside of
spans.

- `Directive.ofText?`
- `LogFilter.ofText?`, `LogFilter.ofTextLossy`: all directives, or those that can be read
- `LogFilter.allows`
-/
import CommentDigest.Environment.Basic
import CommentDigest.Logging.Level
import CommentDigest.Text.Blank
import CommentDigest.Text.Letter
import CommentDigest.Text.Replace

namespace CommentDigest

/-- one rule of a filter -/
structure Directive where
  target : Option String
  span : Option String
  /-- names of fields, and whether a value is asked of them -/
  fields : List (String × Bool)
  limit : Option LogLevel
  deriving DecidableEq, Repr

namespace Directive

/-! ## Reading -/

/-- what part of a directive is being read, and where it begins -/
inductive Part where
  | start
  | word (first : Nat)
  | span (first : Nat)
  | field (first : Nat)
  | fields
  | target
  | level (first : Nat)
  deriving DecidableEq, Repr

/-- a directive that lets everything through -/
def everything : Directive := ⟨none, none, [], some .trace⟩

/-- the characters of a text from one position up to another -/
def piece (cs : List Char) (first last : Nat) : String := String.ofList ((cs.take last).drop first)

/-- a field with or without a value -/
def fieldOf (s : String) : String × Bool :=
  (String.ofList (s.toList.takeWhile (· != '=')), s.toList.contains '=')

/-- one more character, at position `i` of the text `cs` -/
def step (cs : List Char) (part : Part) (d : Directive) (i : Nat) (c : Char) : Option (Part × Directive) :=
  match part with
  | .start =>
    if c = '[' then some (.span (i + 1), d)
    else if c = '-' ∨ c = ':' ∨ c = '_' ∨ isLetterOrDigit c then some (.word i, d)
    else none
  | .word first =>
    if c = '=' then some (.level (i + 1), { d with target := some (piece cs first i) })
    else if c = '[' then some (.span (i + 1), { d with target := some (piece cs first i) })
    else some (.word first, d)
  | .target => if c = '=' then some (.level (i + 1), d) else none
  | .span first =>
    if c = ']' then some (.target, { d with span := some (piece cs first i) })
    else if c = '{' then
      let name := piece cs first i
      some (.field (i + 1), { d with span := if name = "" then none else some name })
    else some (.span first, d)
  | .field first =>
    if c = '}' then
      let name := piece cs first i
      if name = "" then none else some (.fields, { d with fields := d.fields ++ [fieldOf name] })
    else some (.field first, d)
  | .fields => if c = ']' then some (.target, d) else none
  | .level first => some (.level first, d)

/-- the directive when its text is over -/
def finish (cs : List Char) (part : Part) (d : Directive) : Option Directive :=
  match part with
  | .word first =>
    let name := String.ofList (cs.drop first)
    match LogLevel.limit? name with
    | some limit => some { d with limit := limit }
    | none => some { d with target := some name }
  | .level first =>
    let name := String.ofList (cs.drop first)
    if name = "" then some d else (LogLevel.limit? name).map fun limit => { d with limit := limit }
  | .target => some d
  | .start | .span _ | .field _ | .fields => none

/-- the characters from a position on -/
def run (cs : List Char) (part : Part) (d : Directive) : (i : Nat) → List Char → Option Directive
  | _, [] => finish cs part d
  | i, c :: r =>
    match step cs part d i c with
    | some (part, d) => run cs part d (i + 1) r
    | none => none

/-- a directive from its text; white space at its ends is stepped over but keeps its place in names -/
def ofText? (s : String) : Option Directive := run s.toList .start everything 0 (trim s.toList)

/-! ## Judging -/

/-- can it apply to a line outside of spans -/
def isStatic (d : Directive) : Bool := d.span.isNone && d.fields.all fun f => !f.2

/-- does it speak of a line with a target and fields -/
def applies (d : Directive) (target : String) (fields : List String) : Bool :=
  d.isStatic && (match d.target with
    | none => true
    | some t => startsWith t.toList target.toList) && d.fields.all fun f => fields.contains f.1

/-- length of the target, one more than its bytes when there is one -/
def targetRank (d : Directive) : Nat :=
  match d.target with
  | none => 0
  | some t => t.utf8ByteSize + 1

/-- does it say at least as much as another -/
def coversMore (d e : Directive) : Bool :=
  e.targetRank < d.targetRank || (e.targetRank == d.targetRank && e.fields.length ≤ d.fields.length)

end Directive

/-! ## Filters -/

/-- the directives of a filter -/
abbrev LogFilter := List Directive

namespace LogFilter

/-- without directives errors get through -/
def orErrors (ds : List Directive) : LogFilter := if ds = [] then [{ Directive.everything with limit := some .error }] else ds

def pieces (s : String) : List String := ((s.toList.splitOn ',').map String.ofList).filter (· != "")

/-- a filter; `none` when a directive cannot be read -/
def ofText? (s : String) : Option LogFilter := ((pieces s).mapM Directive.ofText?).map orErrors

/-- a filter of those directives that can be read -/
def ofTextLossy (s : String) : LogFilter := orErrors ((pieces s).filterMap Directive.ofText?)

/-- the directive that decides; of two that say as much the later one -/
def deciding? (ds : LogFilter) (target : String) (fields : List String) : Option Directive :=
  (ds.filter fun d => d.applies target fields).foldl (fun best d =>
    match best with
    | none => some d
    | some b => if d.coversMore b then some d else some b) none

/-- is a line logged -/
def allows (ds : LogFilter) (target : String) (fields : List String) (level : LogLevel) : Bool :=
  match ds.deciding? target fields with
  | none => false
  | some d => LogLevel.passes d.limit level

/-- the variable that takes the place of a given level -/
def variableName : String := "RUST_LOG"

/-- the filter of the environment, if it has one that can be read, else of a level -/
def choose (env : Environment) (level : String) : LogFilter :=
  match (env.get? variableName).bind ofText? with
  | some f => f
  | none => ofTextLossy level

end LogFilter

end CommentDigest
