/-
Text as bytes.

- `utf8Bytes`: the bytes of a text
- `ofUtf8`: a text from any bytes; what is not well formed becomes replacement characters, one for every longest piece
  that could have begun a character
- `ofUtf8?`: a text from well-formed bytes
-/

namespace CommentDigest

/-- the bytes of a text -/
def utf8Bytes (cs : List Char) : List UInt8 := (String.ofList cs).toUTF8.toList

/-- what stands for bytes that are no character -/
def replacementChar : Char := Char.ofNat 0xFFFD

/-- a character begun: the bytes it still needs, the range of the next one, and the bits so far -/
structure Utf8Partial where
  needed : Nat
  low : Nat
  high : Nat
  bits : Nat
  deriving DecidableEq, Repr

/-- what a first byte comes to: a character, the beginning of one, or neither -/
def utf8First (b : Nat) : Option (Char ⊕ Utf8Partial) :=
  if b < 0x80 then some (.inl (Char.ofNat b))
  else if 0xC2 ≤ b ∧ b ≤ 0xDF then some (.inr ⟨1, 0x80, 0xBF, b % 32⟩)
  else if 0xE0 ≤ b ∧ b ≤ 0xEF then
    some (.inr ⟨2, if b = 0xE0 then 0xA0 else 0x80, if b = 0xED then 0x9F else 0xBF, b % 16⟩)
  else if 0xF0 ≤ b ∧ b ≤ 0xF4 then
    some (.inr ⟨3, if b = 0xF0 then 0x90 else 0x80, if b = 0xF4 then 0x8F else 0xBF, b % 8⟩)
  else none

/-- a byte where a character may begin -/
def utf8Begin (b : Nat) : List Char × Option Utf8Partial :=
  match utf8First b with
  | some (.inl c) => ([c], none)
  | some (.inr p) => ([], some p)
  | none => ([replacementChar], none)

/-- bytes behind the beginning of a character, if there is one -/
def utf8Run : Option Utf8Partial → List UInt8 → List Char
  | none, [] => []
  | some _, [] => [replacementChar]
  | none, b :: bs =>
    let (cs, p) := utf8Begin b.toNat
    cs ++ utf8Run p bs
  | some p, b :: bs =>
    let n := b.toNat
    if p.low ≤ n ∧ n ≤ p.high then
      let bits := 64 * p.bits + n % 64
      if p.needed = 1 then Char.ofNat bits :: utf8Run none bs
      else utf8Run (some ⟨p.needed - 1, 0x80, 0xBF, bits⟩) bs
    else
      let (cs, q) := utf8Begin n
      replacementChar :: cs ++ utf8Run q bs

/-- a text from any bytes -/
def ofUtf8 (bs : List UInt8) : List Char := utf8Run none bs

/-- a text from well-formed bytes -/
def ofUtf8? (bs : List UInt8) : Option (List Char) :=
  if utf8Bytes (ofUtf8 bs) = bs then some (ofUtf8 bs) else none

end CommentDigest
