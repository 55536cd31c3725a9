/-
Hosts of URLs.

- `Host.parse`: a host of a scheme for the web: a domain, a number in one to four parts, or an address in brackets. The
  ASCII form of an international domain is not worked out here; the reader is given it
- `Host.parseOpaque`: a host of any other scheme
- `Host.text`: how a host is written
-/
import CommentDigest.Http.Percent
import CommentDigest.Power

namespace CommentDigest.Http

/-! ## What can be wrong -/

/-- what is wrong with a URL -/
inductive UrlFault where
  | noScheme
  | emptyHost
  | badPort
  | badNumber
  | badAddress
  | badDomain
  | badHostCharacter
  deriving DecidableEq, Repr

/-- the words for a fault -/
def UrlFault.message : UrlFault → String
  | noScheme => "relative URL without a base"
  | emptyHost => "empty host"
  | badPort => "invalid port number"
  | badNumber => "invalid IPv4 address"
  | badAddress => "invalid IPv6 address"
  | badDomain => "invalid international domain name"
  | badHostCharacter => "invalid domain character"

/-- a host -/
inductive Host where
  | domain (name : String)
  /-- an address of 32 bits -/
  | number (n : Nat)
  /-- an address of eight pieces of 16 bits -/
  | address (pieces : List Nat)
  deriving DecidableEq, Repr

namespace Host

/-! ## Numbers -/

/-- a part of a number: decimal, octal behind a zero, hexadecimal behind `0x` -/
def numberPart? (cs : List Char) : Option Nat :=
  let read := fun (base : Nat) (ds : List Char) =>
    (ds.mapM fun c => (Digits.hexValue? c).filter (· < base)).map fun ns => ns.foldl (fun n d => base * n + d) 0
  match cs with
  | [] => none
  | '0' :: 'x' :: ds => read 16 ds
  | '0' :: 'X' :: ds => read 16 ds
  | '0' :: d :: ds => read 8 (d :: ds)
  | ds => read 10 ds

/-- the parts between the points, without an empty last one -/
def numberParts (cs : List Char) : List (List Char) :=
  let ps := cs.splitOn '.'
  if ps.getLast? = some [] then ps.dropLast else ps

/-- does a domain end in a number, so that all of it has to be one -/
def endsInNumber (cs : List Char) : Bool :=
  match (numberParts cs).getLast? with
  | none => false
  | some last => (last ≠ [] && last.all Char.isDigit) || (numberPart? last).isSome

/-- a number of one to four parts; the last part fills up what is left of 32 bits -/
def numberOf? (cs : List Char) : Option Nat := do
  let ns ← (numberParts cs).mapM numberPart?
  let last ← ns.getLast?
  let heads := ns.dropLast
  if 3 < heads.length ∨ heads.any (fun n => decide (255 < n)) ∨ twoTo (8 * (4 - heads.length)) ≤ last then none
  else some (heads.foldl (fun n h => 256 * n + h) 0 * twoTo (8 * (4 - heads.length)) + last)

/-! ## Addresses -/

/-- the four small numbers at the end of an address as two pieces -/
def tailPieces? (cs : List Char) : Option (List Nat) := do
  let ns ← (cs.splitOn '.').mapM fun ds =>
    if Digits.areDigits ds && (ds.length == 1 || ds.head? != some '0') && Digits.value ds ≤ 255 then
      some (Digits.value ds)
    else none
  match ns with
  | [a, b, c, d] => some [256 * a + b, 256 * c + d]
  | _ => none

/-- the pieces of an address, and how many of them stand in front of the gap; `fuel` bounds their number -/
def pieces? : (fuel : Nat) → (pieces : List Nat) → (gap : Option Nat) → List Char → Option (List Nat × Option Nat)
  | _, pieces, gap, [] => some (pieces, gap)
  | 0, _, _, _ :: _ => none
  | fuel + 1, pieces, gap, c :: r =>
    if pieces.length = 8 then none
    else if c = ':' then
      if gap.isSome then none else pieces? fuel (pieces ++ [0]) (some (pieces.length + 1)) r
    else
      let ds := ((c :: r).take 4).takeWhile fun d => (Digits.hexValue? d).isSome
      let piece := ds.foldl (fun n d => 16 * n + (Digits.hexValue? d).getD 0) 0
      match (c :: r).drop ds.length with
      | [] => some (pieces ++ [piece], gap)
      | '.' :: _ => if ds = [] ∨ 6 < pieces.length then none else (tailPieces? (c :: r)).map fun t => (pieces ++ t, gap)
      | ':' :: r => if r = [] then none else pieces? fuel (pieces ++ [piece]) gap r
      | _ => none

/-- an address of eight pieces; a gap stands for as many zeros as are missing -/
def address? (cs : List Char) : Option (List Nat) := do
  let start := match cs with
    | ':' :: ':' :: r => some ([0], some 1, r)
    | ':' :: _ => none
    | r => if r.length < 2 then none else some ([], none, r)
  let (pieces, gap, r) ← start
  let (pieces, gap) ← pieces? (cs.length + 1) pieces gap r
  match gap with
  | some n => if 8 < pieces.length then none else some (pieces.take n ++ List.replicate (8 - pieces.length) 0 ++ pieces.drop n)
  | none => if pieces.length = 8 then some pieces else none

/-! ## Reading -/

/-- what cannot stand in a domain -/
def isForbidden (c : Char) : Bool :=
  isControl c || c == ' ' || c == '%' || c == '#' || c == '/' || c == ':' || c == '<' || c == '>' || c == '?' ||
    c == '@' || c == '[' || c == '\\' || c == ']' || c == '^' || c == '|'

/-- an address between brackets -/
def bracketed? (cs : List Char) : Option Host :=
  match cs.getLast? with
  | some ']' => (address? cs.dropLast).map .address
  | _ => none

/-- what stands in front of a part that encodes other characters -/
def encodedMark : List Char := ['x', 'n', '-', '-']

/-- is a domain its own ASCII form, capital letters apart: all of it is ASCII, and no part encodes anything else -/
def isPlainDomain (cs : List Char) : Bool :=
  (cs.all fun c => decide (c.toNat < 128)) &&
    (cs.splitOn '.').all fun part => !encodedMark.isPrefixOf (part.map Char.toLower)

/-- the ASCII form of a domain; `ascii?` has that of international ones -/
def asciiDomain? (ascii? : List Char → Option (List Char)) (cs : List Char) : Option (List Char) :=
  if isPlainDomain cs then some (cs.map Char.toLower) else ascii? cs

/-- a host of a scheme for the web -/
def parse (ascii? : List Char → Option (List Char)) (cs : List Char) : Except UrlFault Host :=
  match cs with
  | '[' :: r =>
    match bracketed? r with
    | some h => .ok h
    | none => .error .badAddress
  | cs =>
    match (ofUtf8? (percentDecode cs)).bind (asciiDomain? ascii?) with
    | none => .error .badDomain
    | some name =>
      if name.any isForbidden then .error .badDomain
      else if name = [] then .error .emptyHost
      else if endsInNumber name then
        match numberOf? name with
        | some n => .ok (.number n)
        | none => .error .badNumber
      else .ok (.domain (String.ofList name))

/-- what cannot stand in a host of another scheme -/
def isForbiddenOpaque (c : Char) : Bool :=
  c.toNat == 0 || c == ' ' || c == '#' || c == '/' || c == ':' || c == '<' || c == '>' || c == '?' || c == '@' ||
    c == '[' || c == '\\' || c == ']' || c == '^' || c == '|'

/-- a host of any other scheme; it may be empty -/
def parseOpaque (cs : List Char) : Except UrlFault Host :=
  match cs with
  | '[' :: r =>
    match bracketed? r with
    | some h => .ok h
    | none => .error .badAddress
  | cs =>
    if cs.any isForbiddenOpaque then .error .badHostCharacter
    else .ok (.domain (String.ofList (percentEncode isControl cs)))

/-! ## Writing -/

/-- the longest run of two zeros or more: where it begins and how long it is -/
def zeroRun (pieces : List Nat) : Option (Nat × Nat) :=
  let runs := (List.range pieces.length).map fun i => (i, ((pieces.drop i).takeWhile (· == 0)).length)
  (runs.filter fun r => 2 ≤ r.2).foldl (fun best r =>
    match best with
    | none => some r
    | some b => if b.2 < r.2 then some r else some b) none

def piecesText (pieces : List Nat) : String :=
  String.intercalate ":" (pieces.map fun n => String.ofList (Nat.toDigits 16 n))

/-- how a host is written -/
def text : Host → String
  | domain name => name
  | number n =>
    String.intercalate "." ([n / twoTo 24 % 256, n / twoTo 16 % 256, n / 256 % 256, n % 256].map toString)
  | address pieces =>
    match zeroRun pieces with
    | none => "[" ++ piecesText pieces ++ "]"
    | some (i, n) => "[" ++ piecesText (pieces.take i) ++ "::" ++ piecesText (pieces.drop (i + n)) ++ "]"

end Host

end CommentDigest.Http
