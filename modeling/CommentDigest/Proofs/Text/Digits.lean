/-
Digits read into a word.

The digits are put behind a word of 64 bits one by one, and the reading gives up at the first step that leaves 64 bits.
Digits never make a number smaller, so it gives up exactly on the numbers that do not fit, however long their texts are.

- `le_ofDigitChars`: a number only grows by more digits
- `word?_digits`: the word that digits are read as, if they are
- `value_pos`: digits that do not begin with a zero
-/
import CommentDigest.Text.Digits
import Mathlib.Tactic.Common

namespace CommentDigest.Digits

theorem value_eq (ds : List Char) : value ds = Nat.ofDigitChars 10 ds 0 := rfl

theorem le_ofDigitChars (ds : List Char) (n : Nat) : n ≤ Nat.ofDigitChars 10 ds n := by
  have hpow : 0 < 10 ^ ds.length := Nat.pow_pos (by decide)
  have hn := Nat.le_mul_of_pos_left n hpow
  rw [Nat.ofDigitChars_eq_ofDigitChars_zero]
  omega

theorem toNat_ofNat_of_lt {n : Nat} (h : n < twoTo 64) : (UInt64.ofNat n).toNat = n :=
  UInt64.toNat_ofNat_of_lt' h

/-- digits behind a word are read exactly if their number fits -/
theorem wordFrom?_eq {n : Nat} (h : n < twoTo 64) (ds : List Char) :
    wordFrom? (UInt64.ofNat n) ds =
      if Nat.ofDigitChars 10 ds n < twoTo 64 then some (UInt64.ofNat (Nat.ofDigitChars 10 ds n)) else none := by
  induction ds generalizing n with
  | nil => rw [wordFrom?, Nat.ofDigitChars_nil, if_pos h]
  | cons c ds ih =>
    rw [wordFrom?, toNat_ofNat_of_lt h, Nat.ofDigitChars_cons]
    by_cases hnext : 10 * n + (c.toNat - '0'.toNat) < twoTo 64
    · rw [if_pos hnext]
      exact ih hnext
    · -- later digits do not bring the number back below the bound
      have hle := le_ofDigitChars ds (10 * n + (c.toNat - '0'.toNat))
      rw [if_neg hnext, if_neg (by omega)]

/-- **Digits are read into a word exactly if their number fits.** -/
theorem word?_digits {ds : List Char} (hne : ds ≠ []) (hdigit : ∀ c ∈ ds, c.isDigit = true) :
    word? ds = if value ds < twoTo 64 then some (UInt64.ofNat (value ds)) else none := by
  have hdigits : areDigits ds = true := by
    simp only [areDigits, Bool.and_eq_true, decide_eq_true_eq]
    exact ⟨hne, List.all_eq_true.2 hdigit⟩
  unfold word?
  split
  · exact absurd (hdigit '+' List.mem_cons_self) (by decide)
  · rw [if_pos hdigits]
    exact wordFrom?_eq (n := 0) (by decide) ds

/-- digits that begin with another one than zero stand for a positive number -/
theorem value_pos {c : Char} (hdigit : c.isDigit = true) (hzero : c ≠ '0') (ds : List Char) : 0 < value (c :: ds) := by
  have hfirst : 0 < 10 * 0 + (c.toNat - '0'.toNat) := by
    simp only [Char.isDigit, Bool.and_eq_true, decide_eq_true_eq] at hdigit
    have hlow : '0'.toNat ≤ c.toNat := hdigit.1
    have hne : c.toNat ≠ '0'.toNat := fun h => hzero (Char.toNat_inj.1 h)
    omega
  rw [value_eq, Nat.ofDigitChars_cons]
  exact Nat.lt_of_lt_of_le hfirst (le_ofDigitChars ds _)

end CommentDigest.Digits
