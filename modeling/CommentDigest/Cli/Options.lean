/-
What can be written on the command line.

- `Verb`: what the program is told to do
- `ValueOption`, `Switch`: options with a value and without one
- `Scope`: what may stand on one level, in front of the verb or behind it
-/
import CommentDigest.Power
import CommentDigest.Preset
import CommentDigest.Text.Digits

namespace CommentDigest.Cli

/-! ## Verbs -/

/-- what the program is told to do -/
inductive Verb where
  /-- fetch an account's comments and have them summarized -/
  | summarize
  /-- take the records out of a listing -/
  | map
  /-- fill in a template -/
  | render
  /-- show the settings in use -/
  | settings
  /-- show the settings of a preset -/
  | defaults
  deriving DecidableEq, Repr

namespace Verb

def all : List Verb := [summarize, map, render, settings, defaults]

def name : Verb → String
  | summarize => "summarize"
  | map => "map"
  | render => "render"
  | settings => "settings"
  | defaults => "defaults"

def ofName? (s : String) : Option Verb := all.find? fun v => v.name == s

end Verb

/-! ## Options -/

/-- options with a value -/
inductive ValueOption where
  | settings
  | preset
  | logLevel
  | logDir
  | input
  | user
  | maxComments
  | set
  | arg
  | fallback
  deriving DecidableEq, Repr

/-- options without a value -/
inductive Switch where
  | dryRun
  | json
  | keep
  deriving DecidableEq, Repr

def Switch.name : Switch → String
  | dryRun => "dry-run"
  | json => "json"
  | keep => "keep"

/-- a limit that fits into 64 bits -/
def limitOf? (s : String) : Option Int64 :=
  (Digits.signed? s.toList).bind fun n =>
    if IsInt64 n then some (Int64.ofInt n) else none

namespace ValueOption

def name : ValueOption → String
  | settings => "settings"
  | preset => "preset"
  | logLevel => "log-level"
  | logDir => "log-dir"
  | input => "input"
  | user => "user"
  | maxComments => "max-comments"
  | set => "set"
  | arg => "arg"
  | fallback => "fallback"

/-- may it stand more than once on a level -/
def isRepeatable : ValueOption → Bool
  | set => true
  | arg => true
  | _ => false

/-- can a text be its value; a file has a name -/
def accepts : ValueOption → String → Bool
  | settings, v => v ≠ ""
  | logDir, v => v ≠ ""
  | input, v => v ≠ ""
  | preset, v => (Preset.ofName? v).isOk
  | maxComments, v => (limitOf? v).isSome
  | _, _ => true

/-- can the word behind it be its value although it begins with a hyphen, `rest` being what follows the hyphen -/
def acceptsHyphen : ValueOption → (rest : List Char) → Bool
  | maxComments, rest => Digits.areDigits rest
  | _, _ => false

end ValueOption

/-! ## Levels -/

/-- what may stand on a level -/
structure Scope where
  options : List ValueOption
  switches : List Switch
  /-- how many operands -/
  operands : Nat
  /-- the words that end the level -/
  verbs : List String
  deriving DecidableEq, Repr

namespace Scope

/-- options that may stand on both levels -/
def shared : List ValueOption := [.settings, .preset, .logLevel, .logDir]

/-- the word that asks for help in the place of a verb -/
def help : String := "help"

/-- in front of the verb -/
def outer : Scope := ⟨shared, [], 0, Verb.all.map Verb.name ++ [help]⟩

/-- behind a verb -/
def behind : Verb → Scope
  | .summarize => ⟨shared ++ [.input, .maxComments], [.dryRun, .json], 1, []⟩
  | .map => ⟨shared ++ [.input, .user, .maxComments], [], 0, []⟩
  | .render => ⟨shared ++ [.set, .arg, .fallback], [.keep], 1, []⟩
  | .settings => ⟨shared, [], 0, []⟩
  | .defaults => ⟨shared, [], 0, []⟩

def option? (s : Scope) (name : String) : Option ValueOption := s.options.find? fun o => o.name == name

def switch? (s : Scope) (name : String) : Option Switch := s.switches.find? fun w => w.name == name

end Scope

end CommentDigest.Cli
