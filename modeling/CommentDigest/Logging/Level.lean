/-
How much is logged.

- `LogLevel.ofName`: a level by name in any case; an unknown name means `info`
- `LogLevel.limit?`: a limit by name or number, `off` included
-/
import CommentDigest.Text.Case
import CommentDigest.Text.Digits

namespace CommentDigest

/-- how important a line of a log is, or how detailed -/
inductive LogLevel where
  | error
  | warn
  | info
  | debug
  | trace
  deriving DecidableEq, Repr, Inhabited

namespace LogLevel

/-- the more detailed, the higher -/
def detail : LogLevel → Nat
  | error => 1
  | warn => 2
  | info => 3
  | debug => 4
  | trace => 5

def text : LogLevel → String
  | error => "ERROR"
  | warn => "WARN"
  | info => "INFO"
  | debug => "DEBUG"
  | trace => "TRACE"

/-- the name of a level where levels are set -/
def name : LogLevel → String
  | error => "error"
  | warn => "warn"
  | info => "info"
  | debug => "debug"
  | trace => "trace"

/-- the level with a name in any case -/
def ofName (s : String) : LogLevel :=
  match lowercase s with
  | "trace" => trace
  | "debug" => debug
  | "info" => info
  | "warn" => warn
  | "warning" => warn
  | "error" => error
  | _ => info

/-- levels from none at all upwards -/
def limits : List (Option LogLevel) := [none, some error, some warn, some info, some debug, some trace]

/-- a limit: a number from 0 to 5, a name in any case, or nothing for errors alone; `some none` lets nothing through -/
def limit? (s : String) : Option (Option LogLevel) :=
  match (Digits.unsigned? s.toList).bind fun n => limits[n]? with
  | some limit => some limit
  | none =>
    match String.ofList (s.toList.map Char.toLower) with
    | "" => some (some error)
    | "off" => some none
    | "error" => some (some error)
    | "warn" => some (some warn)
    | "info" => some (some info)
    | "debug" => some (some debug)
    | "trace" => some (some trace)
    | _ => none

/-- does a limit let a level through -/
def passes (limit : Option LogLevel) (level : LogLevel) : Bool :=
  match limit with
  | none => false
  | some l => level.detail ≤ l.detail

end LogLevel

end CommentDigest
