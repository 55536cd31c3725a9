/-
Reading over JSON text reads over whatever a reader of values reads.

A value that is not wanted is read over by rules of its own, which ask less of the text. So whatever the grammar spells
is read over, up to the same place, and at any nesting.

- `skipString_of_body`, `skipNumber_of_number`: literals and numbers
- `skips_of_spells`: parts of a document, by induction on the grammar
- `skipValue_of_spells`: values
-/
import CommentDigest.Json.Skip
import CommentDigest.Proofs.Json.Reading

namespace CommentDigest.Json

open Read

/-! ## Literals -/

/-- one spelling of a character is read over -/
theorem skipString_written {t : List Char} {c : Char} (h : Written t c) (r : List Char) :
    skipString (t ++ r) = skipString r := by
  cases h with
  | plain h1 h2 h3 =>
    have h4 : ¬ c.toNat < 32 := Nat.not_lt.2 h3
    simp only [List.cons_append, List.nil_append]
    rw [skipString.eq_def]
    split <;> grind
  | short hx =>
    rename_i d
    have hd : d ≠ 'u' := by
      rintro rfl
      cases hx
    simp only [List.cons_append, List.nil_append]
    rw [skipString.eq_def]
    split <;> grind
  | code hn _ _ => simp [skipString, hn]
  | pair hn _ _ hm _ => simp [skipString, hn, hm]

theorem skipString_of_body {t s : List Char} (h : Body t s) (r : List Char) : skipString (t ++ '"' :: r) = .ok r := by
  induction h with
  | nil => simp [skipString]
  | cons hw _ ih => rw [List.append_assoc, skipString_written hw, ih]

/-! ## Numbers -/

section

variable {positive : Bool} {digits : Nat} {e : Int} {cs r : List Char} {n : Number}

/-- a run of digits that is the rest of a number -/
theorem digits_of_exponentDigits {up : Bool} (h : exponentDigits positive digits e up cs = .ok (n, r)) :
    ∃ c u, cs = c :: u ∧ c.isDigit = true ∧ cs.dropWhile Char.isDigit = r := by
  cases cs with
  | nil => simp [exponentDigits] at h
  | cons c u =>
    by_cases hc : c.isDigit = true
    · refine ⟨c, u, rfl, hc, ?_⟩
      simp only [exponentDigits, hc, if_true] at h
      split at h
      · split_ifs at h
        · simp at h
        · cases h
          rfl
      · exact (scaled_takesFront h).1.symm
    · simp [exponentDigits, hc] at h

theorem skipExponent_of_exponent (h : exponent positive digits e cs = .ok (n, r)) : skipExponent cs = .ok r := by
  by_cases hp : cs.head? = some '+'
  · obtain ⟨cs', rfl⟩ := List.head?_eq_some_iff.1 hp
    rw [exponent_plus] at h
    obtain ⟨c, u, rfl, hc, hr⟩ := digits_of_exponentDigits h
    simp only [skipExponent, hc, if_true, hr]
  · by_cases hm : cs.head? = some '-'
    · obtain ⟨cs', rfl⟩ := List.head?_eq_some_iff.1 hm
      rw [exponent_minus] at h
      obtain ⟨c, u, rfl, hc, hr⟩ := digits_of_exponentDigits h
      simp only [skipExponent, hc, if_true, hr]
    · rw [exponent_unsigned _ _ _ hp hm] at h
      obtain ⟨c, u, rfl, hc, hr⟩ := digits_of_exponentDigits h
      have hplus : c ≠ '+' := fun h => hp (by rw [h]; rfl)
      have hminus : c ≠ '-' := fun h => hm (by rw [h]; rfl)
      unfold skipExponent
      split
      · rename_i heq
        exact absurd (List.cons.inj heq).1 hplus
      · rename_i heq
        exact absurd (List.cons.inj heq).1 hminus
      · simp only [hc, if_true, hr]

theorem skipExponentOrEnd_of_exponentOrEnd (h : exponentOrEnd positive digits e cs = .ok (n, r)) :
    skipExponentOrEnd cs = .ok r := by
  cases cs with
  | nil =>
    rw [(scaled_takesFront h).1]
    rfl
  | cons c cs =>
    by_cases hc : c = 'e' ∨ c = 'E'
    · simp only [exponentOrEnd, if_pos hc] at h
      have hskip := skipExponent_of_exponent h
      rcases hc with rfl | rfl
      · exact hskip
      · exact hskip
    · simp only [exponentOrEnd, if_neg hc] at h
      obtain ⟨hlower, hupper⟩ := not_or.1 hc
      rw [(scaled_takesFront h).1]
      unfold skipExponentOrEnd
      split
      · rename_i heq
        exact absurd (List.cons.inj heq).1 hlower
      · rename_i heq
        exact absurd (List.cons.inj heq).1 hupper
      · rfl

theorem skipAfterWhole_of_afterWhole {m extra : Nat} (h : afterWhole positive m extra cs = .ok (n, r)) :
    skipAfterWhole cs = .ok r := by
  unfold afterWhole at h
  split at h
  · rename_i u
    by_cases hne : u.takeWhile Char.isDigit = []
    · simp [places, hne] at h
    · simp only [places, if_neg hne] at h
      rw [skipAfterWhole, if_neg hne]
      exact skipExponentOrEnd_of_exponentOrEnd h
  · exact skipExponent_of_exponent h
  · exact skipExponent_of_exponent h
  · rename_i hpoint hlower hupper
    have hr : r = cs := by
      split_ifs at h
      · cases h
        rfl
      · exact (scaled_takesFront h).1
    subst hr
    unfold skipAfterWhole
    split
    · exact absurd rfl (hpoint _)
    · unfold skipExponentOrEnd
      split
      · exact absurd rfl (hlower _)
      · exact absurd rfl (hupper _)
      · rfl

/-- what is taken as a number is read over as one -/
theorem skipNumber_of_number (h : Read.number positive cs = .ok (n, r)) : skipNumber cs = .ok r := by
  cases cs with
  | nil => simp [Read.number] at h
  | cons c cs =>
    by_cases hz : c = '0'
    · subst hz
      cases cs with
      | nil =>
        simp only [Read.number, if_true] at h
        simp only [skipNumber, if_true]
        exact skipAfterWhole_of_afterWhole h
      | cons d cs =>
        by_cases hd : d.isDigit = true
        · simp [Read.number, hd] at h
        · simp only [Read.number, if_true, if_neg hd] at h
          simp only [skipNumber, if_true, if_neg hd]
          exact skipAfterWhole_of_afterWhole h
    · by_cases hc : c.isDigit = true
      · simp only [Read.number, if_neg hz, if_pos hc] at h
        simp only [skipNumber, if_neg hz, if_pos hc]
        exact skipAfterWhole_of_afterWhole h
      · simp [Read.number, hz, hc] at h

end

/-! ## Parts -/

/-- over an array, from behind its bracket -/
def skipArray (fuel : Nat) (cs : List Char) : Except Stop (List Char) :=
  match skipBlanks cs with
  | [] => stopAt .endInList []
  | ']' :: r => .ok r
  | r => skipItems fuel r

/-- over an object, from behind its brace -/
def skipObject (fuel : Nat) (cs : List Char) : Except Stop (List Char) :=
  match skipBlanks cs with
  | [] => stopAt .endInObject []
  | '}' :: r => .ok r
  | r => skipMembers fuel r

/-- over what stands behind a value of an array -/
def skipItemEnd (fuel : Nat) (cs : List Char) : Except Stop (List Char) :=
  match skipBlanks cs with
  | [] => stopAt .endInList []
  | ']' :: r => .ok r
  | ',' :: r => skipItems fuel r
  | r => stopOn .noListEnd r

/-- over what stands behind a member of an object -/
def skipMemberEnd (fuel : Nat) (cs : List Char) : Except Stop (List Char) :=
  match skipBlanks cs with
  | [] => stopAt .endInObject []
  | '}' :: r => .ok r
  | ',' :: r => skipMembers fuel r
  | r => stopOn .noObjectEnd r

/-- the part is read over, whatever follows; every level and every entry takes two steps at most -/
def Skips (t : List Char) : Part → Prop
  | .value _ => ∀ fuel r, 2 * t.length ≤ fuel → Ends r → skip fuel (t ++ r) = .ok r
  | .items true _ => ∀ fuel r, 2 * t.length ≤ fuel → skipArray fuel (t ++ r) = .ok r
  | .items false _ => ∀ fuel r, 2 * t.length ≤ fuel → skipItemEnd fuel (t ++ r) = .ok r
  | .member _ _ => ∀ fuel r, 2 * t.length ≤ fuel → Ends r →
      ∃ u w x, skipBlanks (t ++ r) = '"' :: u ∧ skipString u = .ok w ∧ colon w = .ok x ∧ skip fuel x = .ok r
  | .members true _ => ∀ fuel r, 2 * t.length ≤ fuel → skipObject fuel (t ++ r) = .ok r
  | .members false _ => ∀ fuel r, 2 * t.length ≤ fuel → skipMemberEnd fuel (t ++ r) = .ok r

theorem skip_skipBlanks {fuel : Nat} (h : 0 < fuel) (cs : List Char) : skip fuel (skipBlanks cs) = skip fuel cs := by
  obtain ⟨f, rfl⟩ := Nat.exists_eq_add_of_lt h
  rw [skip.eq_def, skip.eq_def _ cs]
  simp only [skipBlanks_skipBlanks]

theorem skip_blank {fuel : Nat} (h : 0 < fuel) {c : Char} (hc : isBlank c = true) (cs : List Char) :
    skip fuel (c :: cs) = skip fuel cs := by
  rw [← skip_skipBlanks h, skipBlanks_blank hc, skip_skipBlanks h]

theorem skip_bracket (fuel : Nat) (cs : List Char) : skip (fuel + 1) ('[' :: cs) = skipArray fuel cs := by
  rw [skip, skipBlanks_cons (by decide)]
  simp only [Char.reduceEq, Char.reduceIsDigit, Bool.false_eq_true, if_false, if_true]
  rfl

theorem skip_brace (fuel : Nat) (cs : List Char) : skip (fuel + 1) ('{' :: cs) = skipObject fuel cs := by
  rw [skip, skipBlanks_cons (by decide)]
  simp only [Char.reduceEq, Char.reduceIsDigit, Bool.false_eq_true, if_false, if_true]
  rfl

/-- a value, and what stands behind it -/
theorem skipItems_step {fuel : Nat} {cs w r : List Char} (hvalue : skip fuel cs = .ok w)
    (hend : skipItemEnd fuel w = .ok r) : skipItems (fuel + 1) cs = .ok r := by
  rw [skipItems, hvalue]
  exact hend

/-- a member, and what stands behind it -/
theorem skipMembers_step {fuel : Nat} {cs u w x y r : List Char} (hquote : skipBlanks cs = '"' :: u)
    (hname : skipString u = .ok w) (hcolon : colon w = .ok x) (hvalue : skip fuel x = .ok y)
    (hend : skipMemberEnd fuel y = .ok r) : skipMembers (fuel + 1) cs = .ok r := by
  rw [skipMembers, hquote]
  change (skipString u >>= _) = _
  rw [hname]
  change (colon w >>= _) = _
  rw [hcolon]
  change (skip fuel x >>= _) = _
  rw [hvalue]
  exact hend

theorem Skips.blank {c : Char} {t : List Char} {p : Part} (hc : isBlank c = true) (h : Skips t p) :
    Skips (c :: t) p := by
  have hshorter : ∀ {fuel}, 2 * (c :: t).length ≤ fuel → 2 * t.length ≤ fuel := by
    intro fuel hfuel
    rw [List.length_cons] at hfuel
    omega
  rcases p with v | ⟨_ | _, vs⟩ | ⟨k, v⟩ | ⟨_ | _, ms⟩
  · intro fuel r hfuel hr
    have hpos : 0 < fuel := Nat.lt_of_lt_of_le (Nat.mul_pos (by decide) (Nat.succ_pos _)) hfuel
    rw [List.cons_append, skip_blank hpos hc]
    exact h fuel r (hshorter hfuel) hr
  · intro fuel r hfuel
    rw [List.cons_append, skipItemEnd, skipBlanks_blank hc]
    exact h fuel r (hshorter hfuel)
  · intro fuel r hfuel
    rw [List.cons_append, skipArray, skipBlanks_blank hc]
    exact h fuel r (hshorter hfuel)
  · intro fuel r hfuel hr
    rw [List.cons_append, skipBlanks_blank hc]
    exact h fuel r (hshorter hfuel) hr
  · intro fuel r hfuel
    rw [List.cons_append, skipMemberEnd, skipBlanks_blank hc]
    exact h fuel r (hshorter hfuel)
  · intro fuel r hfuel
    rw [List.cons_append, skipObject, skipBlanks_blank hc]
    exact h fuel r (hshorter hfuel)

/-- a number without a sign is told by its first digit -/
theorem skips_positive {t : List Char} {x : Number} (h : Numeral true t x) : Skips t (.value (.number x)) := by
  intro fuel r hfuel hr
  obtain ⟨c, w, rfl, hd, hb⟩ := h.begins
  have hx := skipNumber_of_number (h.takes r hr)
  obtain ⟨f, rfl⟩ := Nat.exists_eq_add_of_lt (Nat.lt_of_lt_of_le (Nat.mul_pos (by decide) (Nat.succ_pos _)) hfuel)
  rw [List.cons_append] at hx ⊢
  rw [skip, skipBlanks_cons hb]
  have hn : c ≠ 'n' := ne_of_isDigit hd (by decide)
  have ht : c ≠ 't' := ne_of_isDigit hd (by decide)
  have hf : c ≠ 'f' := ne_of_isDigit hd (by decide)
  have hm : c ≠ '-' := ne_of_isDigit hd (by decide)
  simp only [if_neg hn, if_neg ht, if_neg hf, if_neg hm, hd, if_true, hx]

/-- two stretches of text leave a step for the first of them and steps enough for both -/
theorem exists_step {t u : List Char} {fuel : Nat} (ht : 0 < t.length) (hu : 0 < u.length)
    (h : 2 * (t ++ u).length ≤ fuel) :
    ∃ f, fuel = f + 1 ∧ 0 < f ∧ 2 * t.length ≤ f ∧ 2 * u.length ≤ f := by
  rw [List.length_append] at h
  exact ⟨fuel - 1, by omega, by omega, by omega, by omega⟩

/-- **What the grammar spells is read over.** -/
theorem skips_of_spells {n : Nat} {t : List Char} {p : Part} (h : Spells n t p) : Skips t p := by
  -- a character is two steps
  have hchar : ∀ {c : Char} {t : List Char} {fuel : Nat}, 2 * (c :: t).length ≤ fuel →
      ∃ f, fuel = f + 1 ∧ 2 * t.length ≤ f := by
    intro c t fuel hfuel
    rw [List.length_cons] at hfuel
    exact ⟨fuel - 1, by omega, by omega⟩
  induction h with
  | blank hc _ ih => exact ih.blank hc
  | null | yes | no =>
    intro fuel r hfuel _
    obtain ⟨f, rfl, -⟩ := hchar hfuel
    rw [List.cons_append, skip, skipBlanks_cons (by decide)]
    simp only [Char.reduceEq, if_false, if_true]
    rfl
  | positive hx => exact skips_positive hx
  | negative hx =>
    intro fuel r hfuel hr
    obtain ⟨f, rfl, -⟩ := hchar hfuel
    have hn := skipNumber_of_number (hx.takes r hr)
    rw [List.cons_append, skip, skipBlanks_cons (by decide)]
    simp only [Char.reduceEq, if_false, if_true, hn]
  | string hs =>
    intro fuel r hfuel _
    obtain ⟨f, rfl, -⟩ := hchar hfuel
    have hb := skipString_of_body (r := r) hs
    rw [List.cons_append, List.append_assoc, List.singleton_append, skip, skipBlanks_cons (by decide)]
    simp only [Char.reduceEq, Char.reduceIsDigit, Bool.false_eq_true, if_false, if_true, hb]
  | array _ ih =>
    intro fuel r hfuel _
    obtain ⟨f, rfl, hf⟩ := hchar hfuel
    exact (skip_bracket f _).trans (ih f r hf)
  | object _ ih =>
    intro fuel r hfuel _
    obtain ⟨f, rfl, hf⟩ := hchar hfuel
    exact (skip_brace f _).trans (ih f r hf)
  | @noItem n first => cases first <;> exact fun fuel r _ => rfl
  | @noMember n first => cases first <;> exact fun fuel r _ => rfl
  | @firstItem n t u v vs ht hu ihv ihvs =>
    intro fuel r hfuel
    obtain ⟨f, rfl, hpos, hft, hfu⟩ := exists_step ht.length_pos hu.length_pos hfuel
    obtain ⟨c, w, hw, hc⟩ := ht.begins
    have hvalue := ihv f (u ++ r) hft (hu.ends (fun _ => isNumeralChar_of_begins_items) r)
    rw [← skip_skipBlanks hpos] at hvalue
    have hitems := skipItems_step hvalue (ihvs f r hfu)
    rw [hw] at hitems
    rw [List.append_assoc, skipArray, hw]
    -- the first character of a value is not the end of the array
    split
    · rename_i heq; cases heq
    · rename_i heq; exact absurd (List.cons.inj heq).1 hc
    · exact hitems
  | @nextItem n t u v vs ht hu ihv ihvs =>
    intro fuel r hfuel
    obtain ⟨f, rfl, hpos, hft, hfu⟩ := exists_step (t := ',' :: t) (Nat.succ_pos _) hu.length_pos hfuel
    have hvalue := ihv f (u ++ r) (by rw [List.length_cons] at hft; omega)
      (hu.ends (fun _ => isNumeralChar_of_begins_items) r)
    rw [List.cons_append, List.append_assoc, skipItemEnd, skipBlanks_cons (by decide)]
    exact skipItems_step hvalue (ihvs f r hfu)
  | @member n t ws u k v hk hws hu ih =>
    intro fuel r hfuel hr
    have hvalue : skip fuel (u ++ r) = .ok r := by
      refine ih fuel r ?_ hr
      simp only [List.length_cons, List.length_append] at hfuel
      omega
    refine ⟨t ++ '"' :: (ws ++ ':' :: (u ++ r)), _, _, ?_, skipString_of_body hk _,
      colon_blanks hws _, hvalue⟩
    rw [List.cons_append, skipBlanks_cons (by decide)]
    simp
  | @firstMember n t u k v ms ht hu ihm ihms =>
    intro fuel r hfuel
    obtain ⟨f, rfl, -, hft, hfu⟩ := exists_step ht.length_pos hu.length_pos hfuel
    obtain ⟨a, w, x, hquote, hname, hcolon, hvalue⟩ :=
      ihm f (u ++ r) hft (hu.ends (fun _ => isNumeralChar_of_begins_members) r)
    rw [List.append_assoc, skipObject, hquote]
    exact skipMembers_step (skipBlanks_cons (by decide) a) hname hcolon hvalue (ihms f r hfu)
  | @nextMember n t u k v ms ht hu ihm ihms =>
    intro fuel r hfuel
    obtain ⟨f, rfl, -, hft, hfu⟩ := exists_step (t := ',' :: t) (Nat.succ_pos _) hu.length_pos hfuel
    obtain ⟨a, w, x, hquote, hname, hcolon, hvalue⟩ :=
      ihm f (u ++ r) (by rw [List.length_cons] at hft; omega) (hu.ends (fun _ => isNumeralChar_of_begins_members) r)
    rw [List.cons_append, List.append_assoc, skipMemberEnd, skipBlanks_cons (by decide)]
    exact skipMembers_step hquote hname hcolon hvalue (ihms f r hfu)

/-- **Values are read over**, at any nesting. -/
theorem skipValue_of_spells {n : Nat} {t : List Char} {v : Json} (h : Spells n t (.value v)) {r : List Char}
    (hr : Ends r) : skipValue (t ++ r) = .ok r := by
  refine skips_of_spells h _ r ?_ hr
  rw [List.length_append]
  omega

end CommentDigest.Json
