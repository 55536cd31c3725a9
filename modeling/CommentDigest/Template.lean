/-
Templates with placeholders.

A template is read in one of two dialects. The named dialect knows a name in braces behind a dollar sign; the positional
one knows, behind a hash sign, a number without leading zero or the letter n. Everything else is literal text, the other
dialect's placeholders included.

- `tokens`: the template as literal characters and placeholders, in order
- `fill`: every placeholder replaced by its value, by the fallback text, or kept. Numbered placeholders count from one, and
  a number of more than 64 bits has no value; each letter n takes the next value, also past the end. Replacements are never
  read again.
-/
import CommentDigest.Text.Digits

namespace CommentDigest.Template

/-! ## Tokens -/

/-- which placeholders a template has -/
inductive Dialect where
  | named
  | positional
  deriving DecidableEq, Repr

/-- a placeholder: a name, a number as written, or the next value -/
inductive Placeholder where
  | name (text : List Char)
  | index (digits : List Char)
  | next
  deriving DecidableEq, Repr

/-- a placeholder as it stands in a template -/
def Placeholder.text : Placeholder → List Char
  | name n => '{' :: '$' :: (n ++ ['}'])
  | index ds => '{' :: '#' :: (ds ++ ['}'])
  | next => ['{', '#', 'n', '}']

/-- one piece of a template -/
inductive Token where
  | literal (c : Char)
  | placeholder (p : Placeholder)
  deriving DecidableEq, Repr

def Token.text : Token → List Char
  | literal c => [c]
  | placeholder p => p.text

/-- a letter of the Latin alphabet without marks, or an underscore -/
def isNameStart (c : Char) : Bool := c.isAlpha || c == '_'

def isNameChar (c : Char) : Bool := c.isAlphanum || c == '_'

/-- is the text a name -/
def isName : List Char → Bool
  | [] => false
  | c :: cs => isNameStart c && cs.all isNameChar

/-- is the text a number without leading zero -/
def isIndex : List Char → Bool
  | [] => false
  | c :: cs => c.isDigit && c ≠ '0' && cs.all Char.isDigit

/-- the placeholder that a text starts with -/
def placeholder? : Dialect → List Char → Option Placeholder
  | .named, '{' :: '$' :: r =>
    let n := r.takeWhile isNameChar
    if isName n ∧ (r.dropWhile isNameChar).head? = some '}' then some (.name n) else none
  | .positional, '{' :: '#' :: r =>
    match r with
    | 'n' :: '}' :: _ => some .next
    | _ =>
      let ds := r.takeWhile Char.isDigit
      if isIndex ds ∧ (r.dropWhile Char.isDigit).head? = some '}' then some (.index ds) else none
  | _, _ => none

/-- the pieces of a template -/
def tokens (d : Dialect) : List Char → List Token
  | [] => []
  | c :: cs =>
    match placeholder? d (c :: cs) with
    | some p => .placeholder p :: tokens d (cs.drop (p.text.length - 1))
    | none => .literal c :: tokens d cs
termination_by cs => cs.length
decreasing_by
  · simp only [List.length_drop, List.length_cons]; omega
  · simp

/-! ## Filling -/

/-- where values come from; the kind decides the dialect -/
inductive Values where
  | named (value : String → Option String)
  | positional (values : List String)

/-- what stands in for a missing value: a text, or the placeholder itself -/
inductive Fallback where
  | text (s : String)
  | keep
  deriving DecidableEq, Repr

/-- the empty text -/
def Fallback.empty : Fallback := .text ""

def Values.dialect : Values → Dialect
  | named _ => .named
  | positional _ => .positional

/-- values by name; of a repeated name the last one counts -/
def Values.ofPairs (pairs : List (String × String)) : Values :=
  .named fun name => (pairs.reverse.find? fun p => p.1 == name).map (·.2)

/-- the one named value -/
def Values.single (name value : String) : Values :=
  .named fun n => if n = name then some value else none

/-- the value of a placeholder, `taken` values having been taken by `next` before it -/
def Values.value? (values : Values) (taken : Nat) : Placeholder → Option String
  | .name n =>
    match values with
    | named f => f (String.ofList n)
    | positional _ => none
  | .index ds =>
    match values with
    | named _ => none
    | positional vs => (Digits.word? ds).bind fun k => vs[(k - 1).toNat]?
  | .next =>
    match values with
    | named _ => none
    | positional vs => vs[taken]?

/-- what a placeholder becomes -/
def replacement (values : Values) (fallback : Fallback) (taken : Nat) (p : Placeholder) : List Char :=
  match values.value? taken p with
  | some v => v.toList
  | none =>
    match fallback with
    | .text s => s.toList
    | .keep => p.text

/-- the pieces with their placeholders replaced -/
def fillTokens (values : Values) (fallback : Fallback) : (taken : Nat) → List Token → List Char
  | _, [] => []
  | taken, .literal c :: ts => c :: fillTokens values fallback taken ts
  | taken, .placeholder p :: ts =>
    replacement values fallback taken p ++
      fillTokens values fallback (if p = .next then taken + 1 else taken) ts

/-- the template with its placeholders replaced -/
def fillChars (template : List Char) (values : Values) (fallback : Fallback) : List Char :=
  fillTokens values fallback 0 (tokens values.dialect template)

/-- the template with its placeholders replaced -/
def fill (template : String) (values : Values) (fallback : Fallback) : String :=
  String.ofList (fillChars template.toList values fallback)

end CommentDigest.Template
