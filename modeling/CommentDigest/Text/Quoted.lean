/-
Text shown between quotes in a message.

`quoted` escapes a quote, a backslash and the usual controls, and shows by number what could not be seen.
-/
import CommentDigest.Text.Case
import CommentDigest.Text.QuotedTable

namespace CommentDigest

/-- a character by number -/
def byNumber (c : Char) : List Char :=
  '\\' :: 'u' :: '{' :: (Nat.toDigits 16 c.toNat ++ ['}'])

/-- how a character is shown between quotes -/
def quotedChar (c : Char) : List Char :=
  if c = '\x00' then ['\\', '0']
  else if c = '\t' then ['\\', 't']
  else if c = '\r' then ['\\', 'r']
  else if c = '\n' then ['\\', 'n']
  else if c = '"' then ['\\', '"']
  else if c = '\\' then ['\\', '\\']
  else if c.toNat < 32 || c.toNat == 127 then byNumber c
  else if c.toNat < 127 then [c]
  else if inRanges QuotedTable.hiddenRanges c.toNat then byNumber c
  else [c]

/-- a text between quotes -/
def quoted (s : String) : String := String.ofList ('"' :: (s.toList.flatMap quotedChar ++ ['"']))

end CommentDigest
