/-
The words of a command line, read level by level.

A word with two hyphens in front names an option; its value follows in the same word behind an equals sign, or as the next
word, which must not look like an option. Two hyphens alone make operands of all words behind them. A value is looked at
when it is stored: at once behind an equals sign, otherwise when the next option or operand comes or the level ends. So a
word that asks for help can come in front of a fault, and then it wins.

- `Word.ofText`: what a word looks like
- `Level`: the options and operands of a level
- `readLevel`: the words up to the end or to a verb
-/
import CommentDigest.Cli.Options

namespace CommentDigest.Cli

/-- why there is nothing to run -/
inductive Stop where
  /-- help was asked for -/
  | help
  /-- the words make no sense -/
  | misuse
  deriving DecidableEq, Repr

/-! ## Words -/

/-- what a word looks like -/
inductive Word where
  /-- two hyphens alone -/
  | separator
  /-- an option by name, and the text behind an equals sign -/
  | long (name : String) (value? : Option String)
  /-- the text behind one hyphen -/
  | short (rest : List Char)
  | plain
  deriving DecidableEq, Repr

/-- a text up to the first equals sign, and what is behind it -/
def splitEquals (cs : List Char) : String × Option String :=
  let name := String.ofList (cs.takeWhile (· != '='))
  match cs.dropWhile (· != '=') with
  | [] => (name, none)
  | _ :: value => (name, some (String.ofList value))

/-- a hyphen alone is a plain word -/
def Word.ofText (s : String) : Word :=
  match s.toList with
  | ['-', '-'] => .separator
  | '-' :: '-' :: cs => .long (splitEquals cs).1 (splitEquals cs).2
  | '-' :: c :: cs => .short (c :: cs)
  | _ => .plain

/-! ## Levels -/

/-- what stands on a level, in order -/
structure Level where
  options : List (ValueOption × String)
  switches : List Switch
  operands : List String
  deriving DecidableEq, Repr

namespace Level

def empty : Level := ⟨[], [], []⟩

/-- the values of an option -/
def valuesOf (l : Level) (o : ValueOption) : List String := (l.options.filter fun p => p.1 == o).map (·.2)

def value? (l : Level) (o : ValueOption) : Option String := (l.valuesOf o).head?

def has (l : Level) (o : ValueOption) : Bool := (l.value? o).isSome

/-- one more option -/
def store (l : Level) (o : ValueOption) (value : String) : Except Stop Level :=
  if (l.has o && !o.isRepeatable) || !o.accepts value then .error .misuse
  else .ok { l with options := l.options ++ [(o, value)] }

/-- one more switch -/
def turnOn (l : Level) (s : Switch) : Except Stop Level :=
  if s ∈ l.switches then .error .misuse else .ok { l with switches := l.switches ++ [s] }

/-- one more operand -/
def addOperand (scope : Scope) (l : Level) (operand : String) : Except Stop Level :=
  if l.operands.length < scope.operands then .ok { l with operands := l.operands ++ [operand] }
  else .error .misuse

end Level

/-! ## Reading -/

/-- the option that is not stored yet -/
inductive Held where
  | nothing
  /-- its value has not come -/
  | awaiting (o : ValueOption)
  | complete (o : ValueOption) (value : String)
  deriving DecidableEq, Repr

/-- a level while it is being read -/
structure Reading where
  level : Level
  held : Held
  deriving DecidableEq, Repr

namespace Reading

def start : Reading := ⟨.empty, .nothing⟩

/-- the level with the option that was held back -/
def settle (r : Reading) : Except Stop Level :=
  match r.held with
  | .nothing => .ok r.level
  | .awaiting _ => .error .misuse
  | .complete o value => r.level.store o value

/-- an option by name -/
def stepLong (scope : Scope) (r : Reading) (name : String) (value? : Option String) : Except Stop Reading := do
  let l ← r.settle
  match scope.option? name, value? with
  | some o, some value => return ⟨← l.store o value, .nothing⟩
  | some o, none => return ⟨l, .awaiting o⟩
  | none, some _ => throw .misuse
  | none, none =>
    match scope.switch? name with
    | some s => return ⟨← l.turnOn s, .nothing⟩
    | none => throw (if name = Scope.help then .help else .misuse)

/-- a word with one hyphen: a negative value, or the letter that asks for help -/
def stepShort (r : Reading) (word : String) (rest : List Char) : Except Stop Reading := do
  match r.held with
  | .awaiting o => if o.acceptsHyphen rest then return ⟨r.level, .complete o word⟩
  | _ => pure ()
  let _ ← r.settle
  throw (if rest.head? = some 'h' then .help else .misuse)

/-- a word that is an operand -/
def stepOperand (scope : Scope) (r : Reading) (word : String) : Except Stop Reading := do
  return ⟨← (← r.settle).addOperand scope word, .nothing⟩

end Reading

/-- the words of a level, and the verb that ends it with all words behind -/
def readLevel (scope : Scope) (r : Reading) : List String → Except Stop (Reading × Option (String × List String))
  | [] => .ok (r, none)
  | word :: rest =>
    match Word.ofText word with
    | .separator => do return (← rest.foldlM (Reading.stepOperand scope) ⟨← r.settle, .nothing⟩, none)
    | .long name value? => do readLevel scope (← r.stepLong scope name value?) rest
    | .short cs => do readLevel scope (← r.stepShort word cs) rest
    | .plain =>
      match r.held with
      | .awaiting o => readLevel scope ⟨r.level, .complete o word⟩ rest
      | _ =>
        if word ∈ scope.verbs then .ok (r, some (word, rest))
        else do readLevel scope (← r.stepOperand scope word) rest

end CommentDigest.Cli
