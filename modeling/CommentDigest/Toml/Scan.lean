/-
The parts of a text of keys and values: blanks, comments, keys, strings, numbers and dates.

Every function takes the text at a place and gives what it read and the text after it, or `none` when the text is not in
the format. A line break is always a single character here (`foldLines`).
-/
import CommentDigest.Binary64.Text
import CommentDigest.Json.Value

namespace CommentDigest.Toml

/-! ## Blanks -/

/-- the two characters of a line break made one -/
def foldLines : List Char → List Char
  | [] => []
  | '\r' :: '\n' :: r => '\n' :: foldLines r
  | c :: r => c :: foldLines r

def isSpace (c : Char) : Bool := c = ' ' || c = '\t'

def skipSpaces (cs : List Char) : List Char := cs.dropWhile isSpace

def inComment (c : Char) : Bool := c = '\t' || 32 ≤ c.toNat

/-- without the comment in front, if there is one -/
def skipComment (cs : List Char) : List Char :=
  match cs with
  | '#' :: r => r.dropWhile inComment
  | r => r

/-- blanks, and a comment, up to the end of the line -/
def endLine (cs : List Char) : Option (List Char) :=
  match skipComment (skipSpaces cs) with
  | [] => some []
  | '\n' :: r => some r
  | _ => none

/-- over blanks, comments and line breaks -/
def skipLines : (fuel : Nat) → List Char → List Char
  | 0, cs => cs
  | fuel + 1, cs =>
    match skipSpaces cs with
    | '#' :: r => skipLines fuel (r.dropWhile inComment)
    | '\n' :: r => skipLines fuel r
    | r => r

/-! ## Strings -/

/-- a character that can stand in a string as it is -/
def isPlain (c : Char) : Bool := c = '\t' || (32 ≤ c.toNat && c.toNat ≠ 127)

/-- the character with a number of so many hexadecimal digits -/
def hexChar (count : Nat) (cs : List Char) : Option (Char × List Char) := do
  let ds ← (cs.take count).mapM Digits.hexValue?
  if ds.length < count then none
  else
    let n := ds.foldl (fun n d => 16 * n + d) 0
    if n < 0xD800 ∨ (0xDFFF < n ∧ n < 0x110000) then some (Char.ofNat n, cs.drop count) else none

/-- the escaped character and the text behind it -/
def escape (c : Char) (r : List Char) : Option (Char × List Char) :=
  if c = '"' then some ('"', r)
  else if c = '\\' then some ('\\', r)
  else if c = 'b' then some ('\x08', r)
  else if c = 'f' then some ('\x0c', r)
  else if c = 'n' then some ('\n', r)
  else if c = 'r' then some ('\r', r)
  else if c = 't' then some ('\t', r)
  else if c = 'u' then hexChar 4 r
  else if c = 'U' then hexChar 8 r
  else none

/-- the text behind a backslash at the end of a line -/
def joinLines (cs : List Char) : Option (List Char) :=
  match skipSpaces cs with
  | [] => some []
  | '\n' :: r => some (r.dropWhile fun c => isSpace c || c = '\n')
  | _ => none

/-- a string of one line, from behind its quote -/
def line (quote : Char) (escapes : Bool) : (fuel : Nat) → List Char → Option (List Char × List Char)
  | 0, _ => none
  | _, [] => none
  | fuel + 1, c :: r =>
    if c = quote then some ([], r)
    else if c = '\\' ∧ escapes then
      match r with
      | [] => none
      | e :: r => do
        let (x, r) ← escape e r
        let (s, r) ← line quote escapes fuel r
        return (x :: s, r)
    else if isPlain c then do
      let (s, r) ← line quote escapes fuel r
      return (c :: s, r)
    else none

/-- a string of several lines, from behind its three quotes and the line break after them -/
def lines (quote : Char) (escapes : Bool) : (fuel : Nat) → List Char → Option (List Char × List Char)
  | 0, _ => none
  | _, [] => none
  | fuel + 1, c :: r =>
    if c = quote then
      if startsWithTwo r then
        let r := r.drop 2
        if r.head? = some quote then
          if (r.drop 1).head? = some quote then some ([quote, quote], r.drop 2) else some ([quote], r.drop 1)
        else some ([], r)
      else do
        let (s, r) ← lines quote escapes fuel r
        return (c :: s, r)
    else if c = '\\' ∧ escapes then
      match r with
      | [] => none
      | e :: r' =>
        if isSpace e ∨ e = '\n' then do
          let r ← joinLines r
          lines quote escapes fuel r
        else do
          let (x, r) ← escape e r'
          let (s, r) ← lines quote escapes fuel r
          return (x :: s, r)
    else if c = '\n' ∨ isPlain c then do
      let (s, r) ← lines quote escapes fuel r
      return (c :: s, r)
    else none
where
  startsWithTwo (r : List Char) : Bool := r.head? = some quote && (r.drop 1).head? = some quote

/-- is it a quote, and are there escapes in its strings -/
def quoteEscapes? (c : Char) : Option Bool :=
  if c = '"' then some true else if c = '\'' then some false else none

/-- a string from behind its first quote, and whether it may have several lines -/
def stringFrom (quote : Char) (escapes : Bool) (cs : List Char) : Option ((List Char × Bool) × List Char) :=
  match cs with
  | a :: b :: r =>
    if a = quote ∧ b = quote then do
      let r := match r with
        | '\n' :: r => r
        | r => r
      let (s, r) ← lines quote escapes (r.length + 1) r
      return ((s, true), r)
    else do
      let (s, r) ← line quote escapes (cs.length + 1) cs
      return ((s, false), r)
  | cs => do
    let (s, r) ← line quote escapes (cs.length + 1) cs
    return ((s, false), r)

/-! ## Keys -/

/-- the characters of a key without quotes, of numbers and of words -/
def isKeyChar (c : Char) : Bool := c.isAlphanum || c = '-' || c = '_'

/-- one part of a key -/
def keyPart (cs : List Char) : Option (String × List Char) :=
  match cs with
  | [] => none
  | c :: r =>
    match quoteEscapes? c with
    | some escapes => do
      let ((s, several), r) ← stringFrom c escapes r
      if several then none else return (String.ofList s, r)
    | none => if isKeyChar c then some (String.ofList (cs.takeWhile isKeyChar), cs.dropWhile isKeyChar) else none

/-- the parts of a key with points between them, and the blanks behind it -/
def key : (fuel : Nat) → List Char → Option (List String × List Char)
  | 0, _ => none
  | fuel + 1, cs => do
    let (k, r) ← keyPart cs
    match skipSpaces r with
    | '.' :: r => do
      let (ks, r) ← key fuel (skipSpaces r)
      return (k :: ks, r)
    | r => return ([k], r)

/-! ## Numbers -/

/-- value of a digit below a base -/
def digitValue? (base : Nat) (c : Char) : Option Nat :=
  match Digits.hexValue? c with
  | some d => if d < base then some d else none
  | none => none

/-- the digits at the front; single underscores may stand between them, and only a zero alone may lead -/
def digitRun (base : Nat) (leadingZeros : Bool) (cs : List Char) : Option (List Char × List Char) :=
  let run := cs.takeWhile fun c => (digitValue? base c).isSome || c = '_'
  let digits := run.filter (· ≠ '_')
  let pairs := run.zip (run.drop 1)
  if run.head? = none ∨ run.head? = some '_' ∨ run.getLast? = some '_' ∨ pairs.contains ('_', '_') then none
  else if !leadingZeros ∧ digits.head? = some '0' ∧ 1 < digits.length then none
  else some (digits, cs.drop run.length)

/-- an integer of 64 bits from digits of a base -/
def intValue (base : Nat) (negative : Bool) (digits : List Char) : Option Int :=
  let n : Int := digits.foldl (fun n c => base * n + (digitValue? base c).getD 0) 0
  let n := if negative then -n else n
  if IsInt64 n then some n else none

/-- a word that is all digits of a base -/
def wholeWord (base : Nat) (leadingZeros negative : Bool) (w : List Char) : Option Int := do
  let (ds, rest) ← digitRun base leadingZeros w
  if rest = [] then intValue base negative ds else none

/-- the sign in front of a word -/
def signOf : List Char → Bool × List Char
  | '-' :: r => (true, r)
  | '+' :: r => (false, r)
  | r => (false, r)

/-- a float from its parts, finite -/
def floatValue (negative : Bool) (digits fraction : List Char) (power : Int) : Option Json :=
  let x := Binary64.ofDecimalText negative (digits ++ fraction) (power - fraction.length)
  if x.isInfinite then none else some (.number (.float x))

/-- the exponent at the end of a float: digits behind `e`, which may be a word of their own behind a plus sign -/
def floatPower (suffix rest : List Char) : Option (Int × List Char) :=
  match suffix with
  | [] => some (0, rest)
  | e :: s =>
    if e = 'e' ∨ e = 'E' then
      if s = [] then do
        let r := match rest with
          | '+' :: r => r
          | r => r
        let (ds, left) ← digitRun 10 true (r.takeWhile isKeyChar)
        if left = [] then return (Digits.value ds, r.dropWhile isKeyChar) else none
      else do
        let (negative, s) := signOf s
        let (ds, left) ← digitRun 10 true s
        if left = [] then return (if negative then -(Digits.value ds : Int) else Digits.value ds, rest) else none
    else none

/-- a float: the word up to the point or exponent, the digits behind the point, the exponent -/
def float (word : List Char) (fraction : Option (List Char)) (rest : List Char) : Option (Json × List Char) := do
  let (negative, unsigned) := signOf word
  let (whole, suffix) ← digitRun 10 false unsigned
  match fraction with
  | none => do
    let (power, rest) ← floatPower suffix rest
    return (← floatValue negative whole [] power, rest)
  | some f => do
    if suffix ≠ [] then none
    let (places, suffix) ← digitRun 10 true f
    let (power, rest) ← floatPower suffix rest
    return (← floatValue negative whole places power, rest)

/-- a number that begins with a word -/
def number (word rest : List Char) : Option (Json × List Char) :=
  match word with
  | '0' :: 'x' :: w => do return (.number (.int (← wholeWord 16 true false w)), rest)
  | '0' :: 'o' :: w => do return (.number (.int (← wholeWord 8 true false w)), rest)
  | '0' :: 'b' :: w => do return (.number (.int (← wholeWord 2 true false w)), rest)
  | _ =>
    if word.contains 'e' ∨ word.contains 'E' then float word none rest
    else
      match rest with
      | '.' :: r =>
        let after := r.takeWhile isKeyChar
        if after = [] then none else float word (some after) (r.dropWhile isKeyChar)
      | _ =>
        let (negative, w) := signOf word
        if w = ['i', 'n', 'f'] then some (.number (.float (.infinite negative)), rest)
        else if w = ['n', 'a', 'n'] then some (.number (.float .nan), rest)
        else do return (.number (.int (← wholeWord 10 false negative w)), rest)

/-! ## Dates -/

/-- a number of so many digits between two bounds -/
def fixedNumber (count low high : Nat) (cs : List Char) : Option (Nat × List Char) :=
  let ds := cs.take count
  if ds.length = count ∧ ds.all Char.isDigit ∧ low ≤ Digits.value ds ∧ Digits.value ds ≤ high then
    some (Digits.value ds, cs.drop count)
  else none

def exactly (c : Char) : List Char → Option (List Char)
  | d :: r => if d = c then some r else none
  | [] => none

/-- a day as it is written out -/
def day (cs : List Char) : Option (List Char × List Char) := do
  let (_, r) ← fixedNumber 4 0 9999 cs
  let r ← exactly '-' r
  let (_, r) ← fixedNumber 2 1 12 r
  let r ← exactly '-' r
  let (_, r) ← fixedNumber 2 1 31 r
  return (cs.take 10, r)

/-- the fraction of a second, at most nine digits, without zeros at its end -/
def secondFraction (ds : List Char) : List Char :=
  let kept := ((ds.take 9).reverse.dropWhile (· == '0')).reverse
  if kept = [] then [] else '.' :: kept

/-- a time of day as it is written out -/
def timeOfDay (cs : List Char) : Option (List Char × List Char) := do
  let (_, r) ← fixedNumber 2 0 24 cs
  let r ← exactly ':' r
  let (_, r) ← fixedNumber 2 0 59 r
  let r ← exactly ':' r
  let (_, r) ← fixedNumber 2 0 59 r
  match r with
  | '.' :: f =>
    let ds := f.takeWhile Char.isDigit
    if ds = [] then none else return (cs.take 8 ++ secondFraction ds, f.dropWhile Char.isDigit)
  | r => return (cs.take 8, r)

/-- the distance to universal time, or nothing -/
def zone (cs : List Char) : Option (List Char) :=
  match cs with
  | [] => some []
  | ['Z'] => some ['Z']
  | ['z'] => some ['Z']
  | s :: r => do
    if s ≠ '+' ∧ s ≠ '-' then none
    let (h, r') ← fixedNumber 2 0 99 r
    let r' ← exactly ':' r'
    let (_, r') ← fixedNumber 2 0 99 r'
    if r' ≠ [] then none
    return (if h = 0 then '+' else s) :: r

/-- a date, a time or both, in the form in which they are written out -/
def dateText (cs : List Char) : Option (List Char) := do
  if (cs.drop 2).head? = some ':' then
    let (t, r) ← timeOfDay cs
    if r = [] then return t else none
  else
    let (d, r) ← day cs
    match r with
    | [] => return d
    | sep :: r =>
      if sep = 'T' ∨ sep = 't' ∨ sep = ' ' then
        let (t, r) ← timeOfDay r
        return d ++ 'T' :: t ++ (← zone r)
      else none

/-- the words behind a date that belong to it: hour, minutes, seconds, their fraction, the zone -/
def dateTail (colonSeen : Bool) (cs : List Char) : Option (List Char × List Char) := do
  let word := fun (cs : List Char) =>
    let w := cs.takeWhile isKeyChar
    if w = [] then none else some (w, cs.dropWhile isKeyChar)
  let (hour, r) := match cs with
    | ' ' :: r => if (r.head?.map isKeyChar) = some true then (' ' :: r.takeWhile isKeyChar, r.dropWhile isKeyChar) else ([], cs)
    | r => ([], r)
  let (colon, r) := if colonSeen then (true, r) else
    match r with
    | ':' :: r => (true, r)
    | r => (false, r)
  if !colon then return (hour, r)
  let (minutes, r) ← word r
  let r ← exactly ':' r
  let (seconds, r) ← word r
  let (fraction, r) ← match r with
    | '.' :: r => do
      let (w, r) ← word r
      pure ('.' :: w, r)
    | r => pure ([], r)
  let (plus, r) ← match r with
    | '+' :: r => do
      let (w, r) ← word r
      pure ('+' :: w, r)
    | r => pure ([], r)
  let (offset, r) ← match r with
    | ':' :: r => do
      let (w, r) ← word r
      pure (':' :: w, r)
    | r => pure ([], r)
  return (hour ++ ':' :: minutes ++ ':' :: seconds ++ fraction ++ plus ++ offset, r)

/-- a date that begins with a word -/
def date (word : List Char) (colonSeen : Bool) (rest : List Char) : Option (Json × List Char) := do
  let (tail, rest) ← dateTail colonSeen rest
  return (.string (String.ofList (← dateText (word ++ tail))), rest)

/-- does a text hold another -/
def holds (part : List Char) : List Char → Bool
  | [] => part.isEmpty
  | c :: r => part.isPrefixOf (c :: r) || holds part r

/-- is a word the beginning of a date -/
def looksLikeDate (w : List Char) : Bool :=
  w.contains 'T' || w.contains 't' ||
    ((w.drop 1).contains '-' && !holds ['e', '-'] w && !holds ['E', '-'] w)

/-- a value that is neither string, array nor table -/
def wordValue (word rest : List Char) : Option (Json × List Char) :=
  if word = ['t', 'r', 'u', 'e'] then some (.bool true, rest)
  else if word = ['f', 'a', 'l', 's', 'e'] then some (.bool false, rest)
  else
    match word with
    | [] => none
    | c :: _ =>
      if c = '-' ∨ c.isDigit ∨ word = ['i', 'n', 'f'] ∨ word = ['n', 'a', 'n'] then
        if looksLikeDate word then date word false rest
        else
          match rest with
          | ':' :: r => date word true r
          | r => number word r
      else none

end CommentDigest.Toml
