/-
What a command line asks for.

`Invocation.parse` reads both levels. An option that may stand on both counts as written behind the verb, then as written
in front of it, then as an environment variable has it.
-/
import CommentDigest.Cli.Words
import CommentDigest.Environment.Basic
import CommentDigest.Template

namespace CommentDigest.Cli

/-! ## Commands -/

/-- where a listing comes from -/
inductive ListingSource where
  | file (name : String)
  | account (name : String)
  deriving DecidableEq, Repr

/-- what a summary is printed as -/
inductive SummaryForm where
  /-- nothing is sent; the request is shown -/
  | request
  /-- the whole record as JSON -/
  | record
  /-- the text alone -/
  | text
  deriving DecidableEq, Repr

/-- the values that a template is given, as written -/
inductive GivenValues where
  /-- each a name, an equals sign and a value -/
  | named (assignments : List String)
  | positional (values : List String)
  deriving DecidableEq, Repr

/-- what is to be done -/
inductive Command where
  | summarize (username : String) (source : ListingSource) (form : SummaryForm) (limit? : Option Int64)
  | map (source : ListingSource) (limit? : Option Int64)
  | render (template : String) (values : GivenValues) (fallback : Template.Fallback)
  | settings
  | defaults
  deriving DecidableEq, Repr

namespace Command

/-- the limit on a level -/
def limitOn? (l : Level) : Option Int64 := (l.value? .maxComments).bind limitOf?

/-- a file wins over the account -/
def summarizeOn (l : Level) : Except Stop Command :=
  match l.operands with
  | [username] =>
    let source := match l.value? .input with
      | some name => .file name
      | none => .account username
    let form := if .dryRun ∈ l.switches then .request else if .json ∈ l.switches then .record else .text
    .ok (.summarize username source form (limitOn? l))
  | _ => .error .misuse

/-- a file or an account, not both -/
def mapOn (l : Level) : Except Stop Command :=
  match l.value? .input, l.value? .user with
  | some name, none => .ok (.map (.file name) (limitOn? l))
  | none, some name => .ok (.map (.account name) (limitOn? l))
  | _, _ => .error .misuse

/-- named or positional values, a fallback or none -/
def renderOn (l : Level) : Except Stop Command :=
  match l.operands with
  | [template] =>
    if (l.has .set && l.has .arg) || (l.has .fallback && .keep ∈ l.switches) then .error .misuse
    else
      let values := if l.has .arg then .positional (l.valuesOf .arg) else .named (l.valuesOf .set)
      let fallback := if .keep ∈ l.switches then .keep else .text ((l.value? .fallback).getD "")
      .ok (.render template values fallback)
  | _ => .error .misuse

/-- what the level behind a verb says -/
def ofLevel : Verb → Level → Except Stop Command
  | .summarize, l => summarizeOn l
  | .map, l => mapOn l
  | .render, l => renderOn l
  | .settings, _ => .ok .settings
  | .defaults, _ => .ok .defaults

end Command

/-! ## Command lines -/

/-- what is to be done, and what may be said of any command -/
structure Invocation where
  settingsFile? : Option String
  preset : Preset
  logLevel? : Option String
  logDir? : Option String
  command : Command
  deriving DecidableEq, Repr

namespace Invocation

/-- the variable that names the settings file -/
def settingsVariable : String := "PEEKABOO_SETTINGS"

/-- behind the word for help may stand one verb, or that word again -/
def helpFor : List String → Stop
  | [] => .help
  | [topic] => if topic ∈ Scope.outer.verbs then .help else .misuse
  | _ => .misuse

/-- the value of an option that may stand on both levels -/
def shared? (outer inner : Level) (o : ValueOption) : Option String := inner.value? o <|> outer.value? o

/-- the variable's value; a level without the option takes it, so it must be fit for one -/
def settingsFrom? (env : Environment) (outer inner : Level) : Except Stop (Option String) :=
  match env.get? settingsVariable with
  | none => .ok none
  | some v =>
    if ValueOption.settings.accepts v || (outer.has .settings && inner.has .settings) then .ok (some v)
    else .error .misuse

/-- two levels and the environment -/
def ofLevels (env : Environment) (verb : Verb) (outer inner : Level) : Except Stop Invocation := do
  let fromEnv? ← settingsFrom? env outer inner
  return {
    settingsFile? := shared? outer inner .settings <|> fromEnv?
    preset := ((shared? outer inner .preset).bind fun s => (Preset.ofName? s).toOption).getD default
    logLevel? := shared? outer inner .logLevel
    logDir? := shared? outer inner .logDir
    command := ← Command.ofLevel verb inner }

/-- what the words ask for; those behind the verb are read before those in front of it are settled -/
def parse (env : Environment) (words : List String) : Except Stop Invocation := do
  match ← readLevel .outer .start words with
  | (_, none) => throw .misuse
  | (outer, some (word, rest)) =>
    match Verb.ofName? word with
    | none => throw (helpFor rest)
    | some verb =>
      let (inner, _) ← readLevel (.behind verb) .start rest
      let inner ← inner.settle
      ofLevels env verb (← outer.settle) inner

end Invocation

end CommentDigest.Cli
