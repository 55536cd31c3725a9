/-
Replacing a text inside a text.

- `replaceChar`: one character everywhere
- `replaceText`: a non-empty text at its leftmost places, which do not overlap; an empty text is nowhere
-/

namespace CommentDigest

/-- every occurrence of a character becomes a text -/
def replaceChar (c : Char) (by_ : List Char) (cs : List Char) : List Char :=
  cs.flatMap fun d => if d = c then by_ else [d]

/-- does a text begin with another -/
def startsWith (part : List Char) (cs : List Char) : Bool := part.isPrefixOf cs

/-- the leftmost occurrences of a text become another text; what is put in is not read again -/
def replaceText (part by_ : List Char) (cs : List Char) : List Char :=
  match cs with
  | [] => []
  | c :: r =>
    if part ≠ [] ∧ startsWith part (c :: r) then by_ ++ replaceText part by_ (r.drop (part.length - 1))
    else c :: replaceText part by_ r
termination_by cs.length
decreasing_by
  · simp only [List.length_drop, List.length_cons]; omega
  · simp

end CommentDigest
