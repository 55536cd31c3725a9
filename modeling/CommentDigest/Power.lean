/-
Powers of two and of ten, and the integers that fit into a number of bits.
-/

namespace CommentDigest

def twoTo (n : Nat) : Nat := Nat.pow 2 n

def tenTo (n : Nat) : Nat := Nat.pow 10 n

/-- an integer of 64 bits with sign -/
def IsInt64 (n : Int) : Prop := -(twoTo 63 : Int) ≤ n ∧ n < twoTo 63

instance (n : Int) : Decidable (IsInt64 n) := inferInstanceAs (Decidable (_ ∧ _))

end CommentDigest
