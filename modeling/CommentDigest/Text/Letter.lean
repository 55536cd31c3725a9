/-
Letters and digits of all scripts.
-/
import CommentDigest.Text.Case
import CommentDigest.Text.LetterTable

namespace CommentDigest

/-- a letter or a numeral of any script -/
def isLetterOrDigit (c : Char) : Bool :=
  if c.toNat < 128 then c.isAlphanum else inRanges LetterTable.letterRanges c.toNat

end CommentDigest
