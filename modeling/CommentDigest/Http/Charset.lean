/-
Bodies as text.

A mark at the very front of the bytes decides how they are read, else the name of a charset does; without either, and
under a name that is not known, they are UTF-8. The tables of most charsets are not written out here; the reader is given
what they make of bytes.

- `Charset.ofLabel?`: the charset with a name, among those that are written out
- `Charset.decode`
- `bodyText`: a body with the value of its content type
-/
import CommentDigest.Http.Header

namespace CommentDigest.Http

/-- how bytes are read -/
inductive Charset where
  | utf8
  /-- pairs of bytes, the high one first or last -/
  | utf16 (highFirst : Bool)
  /-- one byte for each character of western Europe -/
  | western
  /-- names that no text should be read under -/
  | unreadable
  deriving DecidableEq, Repr

namespace Charset

/-! ## Names -/

def westernLabels : List String := [
  "ansi_x3.4-1968", "ascii", "cp1252", "cp819", "csisolatin1", "ibm819", "iso-8859-1", "iso-ir-100", "iso8859-1",
  "iso88591", "iso_8859-1", "iso_8859-1:1987", "l1", "latin1", "us-ascii", "windows-1252", "x-cp1252"]

def unreadableLabels : List String :=
  ["csiso2022kr", "hz-gb-2312", "iso-2022-cn", "iso-2022-cn-ext", "iso-2022-kr", "replacement"]

def utf16Labels : List String :=
  ["csunicode", "iso-10646-ucs-2", "ucs-2", "unicode", "unicodefeff", "utf-16", "utf-16le"]

def utf16HighFirstLabels : List String := ["unicodefffe", "utf-16be"]

def utf8Labels : List String :=
  ["unicode-1-1-utf-8", "unicode11utf8", "unicode20utf8", "utf-8", "utf8", "x-unicode20utf8"]

/-- a name as it is looked up: without blanks around it, in lower case -/
def plainLabel (s : String) : String :=
  let isGap := fun (c : Char) => c == ' ' || c == '\t' || c == '\n' || c == '\r' || c.toNat == 12
  lowerName (String.ofList ((s.toList.dropWhile isGap).reverse.dropWhile isGap).reverse)

/-- the charset with a name -/
def ofLabel? (name : String) : Option Charset :=
  if utf8Labels.contains name then some utf8
  else if westernLabels.contains name then some western
  else if utf16Labels.contains name then some (utf16 false)
  else if utf16HighFirstLabels.contains name then some (utf16 true)
  else if unreadableLabels.contains name then some unreadable
  else none

/-! ## Decoding -/

/-- the characters for the bytes from 128 to 159 -/
def westernUpper : List Nat := [
  0x20AC, 0x81, 0x201A, 0x192, 0x201E, 0x2026, 0x2020, 0x2021, 0x2C6, 0x2030, 0x160, 0x2039, 0x152, 0x8D, 0x17D, 0x8F,
  0x90, 0x2018, 0x2019, 0x201C, 0x201D, 0x2022, 0x2013, 0x2014, 0x2DC, 0x2122, 0x161, 0x203A, 0x153, 0x9D, 0x17E,
  0x178]

def westernChar (b : UInt8) : Char :=
  let n := b.toNat
  Char.ofNat (if 128 ≤ n ∧ n < 160 then westernUpper.getD (n - 128) n else n)

/-- bytes in pairs; an odd last byte is no character -/
def units (highFirst : Bool) : List UInt8 → List Nat × Bool
  | a :: b :: r =>
    let (us, odd) := units highFirst r
    ((if highFirst then 256 * a.toNat + b.toNat else 256 * b.toNat + a.toNat) :: us, odd)
  | [_] => ([], true)
  | [] => ([], false)

/-- characters from pairs of bytes; two units of the right kinds make one character, alone they make none -/
def ofUnits : List Nat → List Char
  | [] => []
  | [u] => [if 0xD800 ≤ u ∧ u < 0xE000 then replacementChar else Char.ofNat u]
  | u :: v :: r =>
    if 0xD800 ≤ u ∧ u < 0xDC00 then
      if 0xDC00 ≤ v ∧ v < 0xE000 then Char.ofNat (0x10000 + 1024 * (u - 0xD800) + (v - 0xDC00)) :: ofUnits r
      else replacementChar :: ofUnits (v :: r)
    else if 0xDC00 ≤ u ∧ u < 0xE000 then replacementChar :: ofUnits (v :: r)
    else Char.ofNat u :: ofUnits (v :: r)

def decode (charset : Charset) (bs : List UInt8) : List Char :=
  match charset with
  | utf8 => ofUtf8 bs
  | western => bs.map westernChar
  | utf16 highFirst =>
    let (us, odd) := units highFirst bs
    ofUnits us ++ if odd then [replacementChar] else []
  | unreadable => if bs = [] then [] else [replacementChar]

/-- the charset that a mark at the front of the bytes gives, and the bytes behind the mark -/
def ofMark? : List UInt8 → Option (Charset × List UInt8)
  | 0xEF :: 0xBB :: 0xBF :: r => some (utf8, r)
  | 0xFE :: 0xFF :: r => some (utf16 true, r)
  | 0xFF :: 0xFE :: r => some (utf16 false, r)
  | _ => none

end Charset

/-- how bytes are read under a name; `charset?` has the charsets that are not written out here -/
def readerOf (charset? : String → Option (List UInt8 → List Char)) (label : String) : List UInt8 → List Char :=
  let name := Charset.plainLabel label
  match Charset.ofLabel? name with
  | some charset => charset.decode
  | none => (charset? name).getD Charset.utf8.decode

/-- a body as text -/
def bodyText (charset? : String → Option (List UInt8 → List Char)) (contentType : Option String) (bs : List UInt8) :
    String :=
  match Charset.ofMark? bs with
  | some (charset, rest) => String.ofList (charset.decode rest)
  | none =>
    match contentType.bind (mediaParameter? "charset") with
    | some label => String.ofList (readerOf charset? label bs)
    | none => String.ofList (Charset.utf8.decode bs)

end CommentDigest.Http
