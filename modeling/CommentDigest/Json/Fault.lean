/-
What can be wrong with a JSON text, and where.

A reader stops with a `Stop`: the fault, the text it had not consumed, and how many bytes beyond that it had looked at.
`Stop.error` turns it into the fault with a line and a column; lines count from 1, and the column is the number of bytes
of that line up to the place.
-/

namespace CommentDigest.Json

/-- what is wrong with a text -/
inductive Fault where
  | endInValue
  | endInList
  | endInObject
  | endInString
  | noValue
  | noIdent
  | noColon
  | noListEnd
  | noObjectEnd
  | keyNotString
  | trailingComma
  | trailingText
  | badNumber
  | numberTooLarge
  | badEscape
  | cutHexEscape
  | loneSurrogate
  | controlInString
  | tooDeep
  | wrongValue (message : String)
  deriving DecidableEq, Repr

/-- the words for a fault -/
def Fault.message : Fault → String
  | endInValue => "EOF while parsing a value"
  | endInList => "EOF while parsing a list"
  | endInObject => "EOF while parsing an object"
  | endInString => "EOF while parsing a string"
  | noValue => "expected value"
  | noIdent => "expected ident"
  | noColon => "expected `:`"
  | noListEnd => "expected `,` or `]`"
  | noObjectEnd => "expected `,` or `\x7d`"
  | keyNotString => "key must be a string"
  | trailingComma => "trailing comma"
  | trailingText => "trailing characters"
  | badNumber => "invalid number"
  | numberTooLarge => "number out of range"
  | badEscape => "invalid escape"
  | cutHexEscape => "unexpected end of hex escape"
  | loneSurrogate => "lone leading surrogate in hex escape"
  | controlInString => "control character (\\u0000-\\u001F) found while parsing a string"
  | tooDeep => "recursion limit exceeded"
  | wrongValue m => m

/-- a fault, the text left when it was found, and the bytes seen beyond that point -/
structure Stop where
  fault : Fault
  rest : List Char
  beyond : Nat
  deriving DecidableEq, Repr

/-- a fault at a place; a fault in a value that is not being read has no place -/
structure ReadError where
  fault : Fault
  place : Option (Nat × Nat)
  deriving DecidableEq, Repr

/-- the words for an error -/
def ReadError.message (e : ReadError) : String :=
  match e.place with
  | none => e.fault.message
  | some (line, column) => e.fault.message ++ " at line " ++ toString line ++ " column " ++ toString column

/-- number of bytes of a text -/
def byteCount (cs : List Char) : Nat := cs.foldl (fun n c => n + c.utf8Size) 0

/-- line and column of a byte position: a line break before the position starts a line -/
def placeOf : List Char → (bytes line column : Nat) → Nat × Nat
  | [], _, line, column => (line, column)
  | c :: cs, bytes, line, column =>
    if bytes < c.utf8Size then (line, column + bytes)
    else if c = '\n' then placeOf cs (bytes - 1) (line + 1) 0
    else placeOf cs (bytes - c.utf8Size) line (column + c.utf8Size)

/-- the error of a stop in a text; a place never lies behind the end of the text -/
def Stop.error (text : List Char) (s : Stop) : ReadError :=
  let total := byteCount text
  let position := min total (total - byteCount s.rest + s.beyond)
  ⟨s.fault, some (placeOf text position 1 0)⟩

/-- a stop in front of a text -/
def stopAt {α : Type} (fault : Fault) (rest : List Char) : Except Stop α := .error ⟨fault, rest, 0⟩

/-- a stop on the first byte of a text -/
def stopOn {α : Type} (fault : Fault) (rest : List Char) : Except Stop α := .error ⟨fault, rest, 1⟩

end CommentDigest.Json
