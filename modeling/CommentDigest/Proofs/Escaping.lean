/-
Text escaped for a JSON literal.

Two replacements are made one behind the other: backslashes are doubled, then quotes get a backslash in front. The second
one looks for quotes, and the first one puts in none, so each character of the text is escaped once and by itself. Between
quotes the escaped text is read as the text, whatever backslashes and quotes it has. Control characters are not escaped,
and a literal cannot hold them: the reader stops on the first one.

- `replaceChar_replaceChar`: two replacements in one pass
- `escapeForLiteral_eq_flatMap`: escaping in one pass
- `body_escapeForLiteral`: escaped text stands for the text
- `parse_literal`, `parse_of_stop`: texts that begin with a quote
- `escapeForLiteral_readBack`: what becomes of any text that is escaped and put between quotes
-/
import CommentDigest.Proofs.Json.Printed
import CommentDigest.Request

namespace CommentDigest

open Json

/-! ## Replacing -/

theorem replaceChar_append (c : Char) (u as bs : List Char) :
    replaceChar c u (as ++ bs) = replaceChar c u as ++ replaceChar c u bs :=
  List.flatMap_append

theorem replaceChar_of_notMem {c : Char} {cs : List Char} (u : List Char) (h : c ∉ cs) : replaceChar c u cs = cs := by
  have hkept : ∀ d ∈ cs, (if d = c then u else [d]) = [d] := fun d hd => if_neg (ne_of_mem_of_not_mem hd h)
  rw [replaceChar, List.flatMap_congr hkept, List.flatMap_singleton']

/-- **Two replacements in one pass**, when the second one looks for nothing that the first one puts in. -/
theorem replaceChar_replaceChar {c d : Char} {u : List Char} (v : List Char) (h : d ∉ u) (cs : List Char) :
    replaceChar d v (replaceChar c u cs) = cs.flatMap fun x => if x = c then u else if x = d then v else [x] := by
  have hpiece : ∀ x, replaceChar d v (if x = c then u else [x]) = if x = c then u else if x = d then v else [x] := by
    intro x
    split_ifs with hc hd
    · exact replaceChar_of_notMem v h
    · rw [replaceChar, List.flatMap_singleton, if_pos hd]
    · rw [replaceChar, List.flatMap_singleton, if_neg hd]
  rw [replaceChar.eq_def c u cs, replaceChar, List.flatMap_assoc]
  exact List.flatMap_congr fun x _ => hpiece x

/-- in the other order the backslash in front of a quote is doubled, and the quote would end the literal -/
example : replaceChar '\\' ['\\', '\\'] (replaceChar '"' ['\\', '"'] ['"']) = ['\\', '\\', '"'] := by decide

/-! ## Escaping -/

/-- escaping in two passes is escaping each character once: what the first pass puts in has no quote -/
theorem escapeForLiteral_eq_flatMap (s : List Char) :
    escapeForLiteral s =
      s.flatMap fun c => if c = '\\' then ['\\', '\\'] else if c = '"' then ['\\', '"'] else [c] :=
  replaceChar_replaceChar ['\\', '"'] (by decide) s

theorem escapeForLiteral_append (as bs : List Char) :
    escapeForLiteral (as ++ bs) = escapeForLiteral as ++ escapeForLiteral bs := by
  rw [escapeForLiteral, replaceChar_append, replaceChar_append, escapeForLiteral, escapeForLiteral]

/-- a control character is left as it is -/
theorem escapeForLiteral_control {c : Char} (h : c.toNat < 32) (s : List Char) :
    escapeForLiteral (c :: s) = c :: escapeForLiteral s := by
  have hslash : c ≠ '\\' := ne_of_control h (by decide)
  have hquote : c ≠ '"' := ne_of_control h (by decide)
  rw [escapeForLiteral_eq_flatMap, List.flatMap_cons, if_neg hslash, if_neg hquote, ← escapeForLiteral_eq_flatMap]
  rfl

/-- **Escaped data stands for the data.** A text without control characters, its backslashes and quotes escaped, is read
in a literal as the text. -/
theorem body_escapeForLiteral {s : List Char} (h : Printable s) : Body (escapeForLiteral s) s := by
  rw [escapeForLiteral_eq_flatMap]
  apply body_flatMap
  intro c hc
  split_ifs with hslash hquote
  · subst hslash
    exact .short (by decide)
  · subst hquote
    exact .short (by decide)
  · exact .plain hquote hslash (h c hc)

/-- a text that is not free of control characters has a first one -/
theorem exists_control {s : List Char} (h : ¬ Printable s) :
    ∃ before c after, s = before ++ c :: after ∧ Printable before ∧ c.toNat < 32 := by
  induction s with
  | nil => exact absurd printable_nil h
  | cons c s ih =>
    by_cases hc : c.toNat < 32
    · exact ⟨[], c, s, rfl, printable_nil, hc⟩
    · have hs : ¬ Printable s := fun hs => h (printable_cons.2 ⟨Nat.not_lt.1 hc, hs⟩)
      obtain ⟨before, d, after, rfl, hbefore, hd⟩ := ih hs
      exact ⟨c :: before, d, after, rfl, printable_cons.2 ⟨Nat.not_lt.1 hc, hbefore⟩, hd⟩

/-! ## Literals -/

namespace Json

open Read

/-- a literal that stands alone is read as the text that it stands for -/
theorem parse_literal {text : String} {t s : List Char} (htext : text.toList = '"' :: (t ++ ['"'])) (h : Body t s) :
    parse text = .ok (.string (String.ofList s)) :=
  parse_eq_ok_iff.2 ⟨'"' :: (t ++ ['"']), [], by rw [htext, List.append_nil], .string h, by simp⟩

/-- a stop behind the quote that a text begins with is what is wrong with the text -/
theorem parse_of_stop {text : String} {cs : List Char} {e : Stop} (htext : text.toList = '"' :: cs)
    (h : stringBody cs = .error e) : parse text = .error (e.error text.toList) := by
  rw [parse, document, htext, value_quote, h]
  rfl

end Json

/-- a text escaped and put between quotes -/
def escapedLiteral (s : String) : String := "\"" ++ String.ofList (escapeForLiteral s.toList) ++ "\""

theorem toList_escapedLiteral (s : String) :
    (escapedLiteral s).toList = '"' :: (escapeForLiteral s.toList ++ ['"']) := by
  simp [escapedLiteral]

theorem parse_escapedLiteral {s : String} (h : Printable s.toList) : Json.parse (escapedLiteral s) = .ok (.string s) := by
  rw [parse_literal (toList_escapedLiteral s) (body_escapeForLiteral h), String.ofList_toList]

/-- the stop of the reader on a control character, the rest of an escaped text behind it -/
def controlStop (c : Char) (after : List Char) : Stop := ⟨.controlInString, c :: (escapeForLiteral after ++ ['"']), 1⟩

theorem parse_escapedLiteral_of_control {s : String} {before after : List Char} {c : Char}
    (hs : s.toList = before ++ c :: after) (hbefore : Printable before) (hc : c.toNat < 32) :
    Json.parse (escapedLiteral s) = .error ((controlStop c after).error (escapedLiteral s).toList) := by
  have htext : (escapedLiteral s).toList =
      '"' :: (escapeForLiteral before ++ c :: (escapeForLiteral after ++ ['"'])) := by
    rw [toList_escapedLiteral, hs, escapeForLiteral_append, escapeForLiteral_control hc, List.append_assoc,
      List.cons_append]
  apply parse_of_stop htext
  rw [stringBody_append (body_escapeForLiteral hbefore), stringBody_control hc]
  rfl

/-- **Escaped text is read back.** For every text: escaping in two passes replaces each character once, a backslash by
two, a quote by a backslash and a quote, and any other one by itself. Between quotes the escaped text is JSON exactly if
the text has no control character below U+0020, and then its value is the text and nothing else. If it has one, the
reader stops on the first. -/
theorem escapeForLiteral_readBack (s : String) :
    escapeForLiteral s.toList =
        (s.toList.flatMap fun c => if c = '\\' then ['\\', '\\'] else if c = '"' then ['\\', '"'] else [c]) ∧
      (∀ v, Json.parse (escapedLiteral s) = .ok v ↔ Printable s.toList ∧ v = .string s) ∧
      ∀ before c after, s.toList = before ++ c :: after → Printable before → c.toNat < 32 →
        Json.parse (escapedLiteral s) = .error ((controlStop c after).error (escapedLiteral s).toList) := by
  refine ⟨escapeForLiteral_eq_flatMap s.toList, fun v => ?_, fun before c after => parse_escapedLiteral_of_control⟩
  constructor
  · intro hv
    by_cases hs : Printable s.toList
    · rw [parse_escapedLiteral hs] at hv
      exact ⟨hs, (Except.ok.inj hv).symm⟩
    · obtain ⟨before, c, after, hsplit, hbefore, hc⟩ := exists_control hs
      rw [parse_escapedLiteral_of_control hsplit hbefore hc] at hv
      cases hv
  · rintro ⟨hs, rfl⟩
    exact parse_escapedLiteral hs

/-- backslashes in front of quotes and at the end, and the same with a line break among them -/
theorem escapeForLiteral_readBack_mixed :
    let plain := "\\\"é\\\\\"\x7f\\"
    let broken := "\\\"é\n\\\x01"
    Json.parse (escapedLiteral plain) = .ok (.string plain) ∧
      broken.toList = ['\\', '"', 'é'] ++ '\n' :: ['\\', '\x01'] ∧ Printable ['\\', '"', 'é'] ∧ '\n'.toNat < 32 ∧
      Json.parse (escapedLiteral broken) = .error ⟨.controlInString, some (2, 0)⟩ := by
  intro plain broken
  have hplain : Printable plain.toList := by simp [plain]
  have hsplit : broken.toList = ['\\', '"', 'é'] ++ '\n' :: ['\\', '\x01'] := by decide
  have hbefore : Printable ['\\', '"', 'é'] := by simp
  have hplace : (controlStop '\n' ['\\', '\x01']).error (escapedLiteral broken).toList =
      ⟨.controlInString, some (2, 0)⟩ := by decide
  refine ⟨((escapeForLiteral_readBack plain).2.1 _).2 ⟨hplain, rfl⟩, hsplit, hbefore, by decide, ?_⟩
  rw [(escapeForLiteral_readBack broken).2.2 _ _ _ hsplit hbefore (by decide), hplace]

end CommentDigest
