/-
Numbers in a text.

What a number is depends on its own characters only, once it is clear that they end where the number ends (`Ends`). So a
stretch of text that reads as a number in one place reads as the same number in every place (`Numeral`).

- `numeral_of_number`: whatever the reader of numbers takes is a numeral
- `numeral_digits`: the decimal digits of a natural that is kept exactly are its numeral
-/
import CommentDigest.Json.Printer
import CommentDigest.Json.Scan
import CommentDigest.Proofs.Json.Literal
import CommentDigest.Proofs.Text.Digits
import Mathlib.Data.List.Basic
import Mathlib.Data.List.TakeWhile

namespace CommentDigest.Json

open Read

/-! ## Numerals -/

/-- the characters of numbers -/
def isNumeralChar (c : Char) : Bool := c.isDigit || c == '.' || c == 'e' || c == 'E' || c == '+' || c == '-'

/-- the text does not begin with a digit -/
def NoDigit (r : List Char) : Prop := ∀ c ∈ r.head?, c.isDigit = false

/-- no number goes on with the text -/
structure Ends (r : List Char) : Prop where
  noDigit : NoDigit r
  noPoint : r.head? ≠ some '.'
  noLowerE : r.head? ≠ some 'e'
  noUpperE : r.head? ≠ some 'E'

/-- a reader of numbers takes the text and stops, whatever follows -/
def Takes (f : List Char → Except Stop (Number × List Char)) (t : List Char) (n : Number) : Prop :=
  ∀ r, Ends r → f (t ++ r) = .ok (n, r)

/-- a reader of numbers has taken the front of a text, and it would take it in front of any other text too -/
def TakesFront (f : List Char → Except Stop (Number × List Char)) (cs : List Char) (n : Number) (r : List Char) :
    Prop :=
  ∃ t, cs = t ++ r ∧ (∀ c ∈ t, isNumeralChar c = true) ∧ Takes f t n

/-- a number without its minus sign, as the reader of numbers takes it -/
structure Numeral (positive : Bool) (t : List Char) (n : Number) : Prop where
  first : ∃ c u, t = c :: u ∧ c.isDigit = true
  chars : ∀ c ∈ t, isNumeralChar c = true
  takes : Takes (Read.number positive) t n

theorem isNumeralChar_of_isDigit {c : Char} (h : c.isDigit = true) : isNumeralChar c = true := by
  simp [isNumeralChar, h]

theorem ne_of_isDigit {c d : Char} (hc : c.isDigit = true) (hd : d.isDigit = false) : c ≠ d := by
  rintro rfl
  rw [hc] at hd
  cases hd

/-! ## Runs of digits -/

theorem noDigit_dropWhile (cs : List Char) : NoDigit (cs.dropWhile Char.isDigit) := by
  intro c hc
  have h := List.head?_dropWhile_not Char.isDigit cs
  rw [Option.mem_def.1 hc] at h
  simpa using h

theorem span_digits {ds r : List Char} (hd : ∀ c ∈ ds, c.isDigit = true) (hr : NoDigit r) :
    (ds ++ r).takeWhile Char.isDigit = ds ∧ (ds ++ r).dropWhile Char.isDigit = r := by
  rw [List.takeWhile_append_of_pos hd, List.dropWhile_append_of_pos hd]
  cases r with
  | nil => simp
  | cons c r => simp [hr c rfl]

theorem isDigit_of_mem_takeWhile (cs : List Char) : ∀ c ∈ cs.takeWhile Char.isDigit, c.isDigit = true :=
  fun _ hc => List.mem_takeWhile_imp hc

/-- whether a digit comes next is settled by the text taken, or by the text after it -/
theorem NoDigit.replace {t r r' : List Char} (h : NoDigit (t ++ r)) (hr : Ends r') : NoDigit (t ++ r') := by
  cases t with
  | nil => exact hr.noDigit
  | cons c t => exact h

/-! ## The parts of a number -/

/-- scaling leaves the text as it is -/
theorem scaled_takesFront {positive : Bool} {digits : Nat} {e : Int} {cs r : List Char} {n : Number}
    (h : scaled positive digits e cs = .ok (n, r)) : r = cs ∧ ∀ r', scaled positive digits e r' = .ok (n, r') := by
  unfold scaled at h ⊢
  split at h
  · simp at h
  · cases h
    exact ⟨rfl, fun _ => rfl⟩

theorem exponentOverflow?_isSome (n : Nat) {ds r r' : List Char} (hd : ∀ c ∈ ds, c.isDigit = true) (hr : NoDigit r)
    (hr' : NoDigit r') : (exponentOverflow? n (ds ++ r)).isSome = (exponentOverflow? n (ds ++ r')).isSome := by
  induction ds generalizing n with
  | nil =>
    have hnone : ∀ u, NoDigit u → exponentOverflow? n u = none := by
      intro u hu
      cases u with
      | nil => rfl
      | cons c u => simp [exponentOverflow?, hu c rfl]
    rw [List.nil_append, List.nil_append, hnone r hr, hnone r' hr']
  | cons c ds ih =>
    have hc := hd c List.mem_cons_self
    simp only [List.cons_append, exponentOverflow?, hc, if_true]
    split_ifs
    · exact ih _ fun x hx => hd x (List.mem_cons_of_mem c hx)
    · rfl

/-- the digits of an exponent whose sign has been read -/
def exponentDigits (positive : Bool) (digits : Nat) (e : Int) (up : Bool) (cs : List Char) :
    Except Stop (Number × List Char) :=
  match cs with
  | [] => stopAt .endInValue []
  | c :: _ =>
    if c.isDigit then
      let rest := cs.dropWhile Char.isDigit
      match exponentOverflow? 0 cs with
      | some after =>
        if digits ≠ 0 && up then stopAt .numberTooLarge after
        else .ok (.float (.finite (!positive) 0 Binary64.minExponent), rest)
      | none =>
        let power : Int := Digits.value (cs.takeWhile Char.isDigit)
        scaled positive digits (if up then e + power else e - power) rest
    else stopOn .badNumber cs

theorem exponent_plus (positive : Bool) (digits : Nat) (e : Int) (cs : List Char) :
    exponent positive digits e ('+' :: cs) = exponentDigits positive digits e true cs := rfl

theorem exponent_minus (positive : Bool) (digits : Nat) (e : Int) (cs : List Char) :
    exponent positive digits e ('-' :: cs) = exponentDigits positive digits e false cs := rfl

theorem exponent_unsigned (positive : Bool) (digits : Nat) (e : Int) {cs : List Char} (hp : cs.head? ≠ some '+')
    (hm : cs.head? ≠ some '-') : exponent positive digits e cs = exponentDigits positive digits e true cs := by
  unfold exponent
  split
  rename_i up cs' heq
  split at heq
  · exact absurd rfl hp
  · exact absurd rfl hm
  · cases heq
    rfl

theorem exponentDigits_append (positive : Bool) (digits : Nat) (e : Int) (up : Bool) {ds r : List Char} (hne : ds ≠ [])
    (hd : ∀ c ∈ ds, c.isDigit = true) (hr : NoDigit r) :
    exponentDigits positive digits e up (ds ++ r) =
      match exponentOverflow? 0 (ds ++ r) with
      | some after =>
        if digits ≠ 0 && up then stopAt .numberTooLarge after
        else .ok (.float (.finite (!positive) 0 Binary64.minExponent), r)
      | none => scaled positive digits (if up then e + Digits.value ds else e - Digits.value ds) r := by
  obtain ⟨h1, h2⟩ := span_digits hd hr
  obtain ⟨c, ds', rfl⟩ := List.exists_cons_of_ne_nil hne
  have hc := hd c List.mem_cons_self
  rw [List.cons_append] at h1 h2 ⊢
  simp only [exponentDigits, hc, if_true, h1, h2]

theorem exponentDigits_takesFront {positive : Bool} {digits : Nat} {e : Int} {up : Bool} {cs r : List Char} {n : Number}
    (h : exponentDigits positive digits e up cs = .ok (n, r)) :
    ∃ ds, ds ≠ [] ∧ cs = ds ++ r ∧ (∀ c ∈ ds, c.isDigit = true) ∧ Takes (exponentDigits positive digits e up) ds n := by
  have hne : cs.takeWhile Char.isDigit ≠ [] := by
    cases cs with
    | nil => simp [exponentDigits] at h
    | cons c cs =>
      by_cases hc : c.isDigit = true
      · simp [hc]
      · simp [exponentDigits, hc] at h
  have hd := isDigit_of_mem_takeWhile cs
  have hsplit := List.takeWhile_append_dropWhile (p := Char.isDigit) (l := cs)
  have hover : ∀ r', Ends r' → (exponentOverflow? 0 (cs.takeWhile Char.isDigit ++ r')).isSome =
      (exponentOverflow? 0 cs).isSome := by
    intro r' hr'
    conv_rhs => rw [← hsplit]
    exact exponentOverflow?_isSome 0 hd hr'.noDigit (noDigit_dropWhile cs)
  rw [← hsplit, exponentDigits_append _ _ _ _ hne hd (noDigit_dropWhile cs), hsplit] at h
  refine ⟨cs.takeWhile Char.isDigit, hne, ?_⟩
  cases ho : exponentOverflow? 0 cs with
  | some after =>
    rw [ho] at h
    dsimp only at h
    split_ifs at h with hbig
    · simp at h
    · cases h
      refine ⟨hsplit.symm, hd, fun r' hr' => ?_⟩
      obtain ⟨after', ho'⟩ := Option.isSome_iff_exists.1 ((hover r' hr').trans (by rw [ho]; rfl))
      rw [exponentDigits_append _ _ _ _ hne hd hr'.noDigit, ho']
      dsimp only
      rw [if_neg hbig]
  | none =>
    rw [ho] at h
    obtain ⟨rfl, hs⟩ := scaled_takesFront h
    refine ⟨hsplit.symm, hd, fun r' hr' => ?_⟩
    have ho' : exponentOverflow? 0 (cs.takeWhile Char.isDigit ++ r') = none := by
      rw [← Option.not_isSome_iff_eq_none, hover r' hr', ho]
      simp
    rw [exponentDigits_append _ _ _ _ hne hd hr'.noDigit, ho']
    exact hs r'

theorem exponent_takesFront {positive : Bool} {digits : Nat} {e : Int} {cs r : List Char} {n : Number}
    (h : exponent positive digits e cs = .ok (n, r)) : TakesFront (exponent positive digits e) cs n r := by
  have hsigned : ∀ (x : Char) (up : Bool) (cs' : List Char), isNumeralChar x = true →
      (∀ u, exponent positive digits e (x :: u) = exponentDigits positive digits e up u) →
      exponent positive digits e (x :: cs') = .ok (n, r) → TakesFront (exponent positive digits e) (x :: cs') n r := by
    intro x up cs' hx hexp h
    rw [hexp] at h
    obtain ⟨ds, hne, rfl, hd, htakes⟩ := exponentDigits_takesFront h
    refine ⟨x :: ds, rfl, fun c hc => ?_, fun r' hr' => by rw [List.cons_append, hexp]; exact htakes r' hr'⟩
    rcases List.mem_cons.1 hc with rfl | hc
    · exact hx
    · exact isNumeralChar_of_isDigit (hd c hc)
  by_cases hp : cs.head? = some '+'
  · obtain ⟨cs', rfl⟩ := List.head?_eq_some_iff.1 hp
    exact hsigned '+' true cs' (by decide) (fun u => exponent_plus positive digits e u) h
  · by_cases hm : cs.head? = some '-'
    · obtain ⟨cs', rfl⟩ := List.head?_eq_some_iff.1 hm
      exact hsigned '-' false cs' (by decide) (fun u => exponent_minus positive digits e u) h
    · rw [exponent_unsigned _ _ _ hp hm] at h
      obtain ⟨ds, hne, rfl, hd, htakes⟩ := exponentDigits_takesFront h
      obtain ⟨c, ds', rfl⟩ := List.exists_cons_of_ne_nil hne
      refine ⟨c :: ds', rfl, fun x hx => isNumeralChar_of_isDigit (hd x hx), fun r' hr' => ?_⟩
      rw [exponent_unsigned _ _ _ (by simpa using hp) (by simpa using hm)]
      exact htakes r' hr'

theorem exponentOrEnd_takesFront {positive : Bool} {digits : Nat} {e : Int} {cs r : List Char} {n : Number}
    (h : exponentOrEnd positive digits e cs = .ok (n, r)) : TakesFront (exponentOrEnd positive digits e) cs n r := by
  have hend : ∀ {cs r}, scaled positive digits e cs = .ok (n, r) →
      TakesFront (exponentOrEnd positive digits e) cs n r := by
    intro cs r h
    obtain ⟨rfl, hs⟩ := scaled_takesFront h
    refine ⟨[], rfl, by simp, fun r' hr' => ?_⟩
    rw [List.nil_append]
    cases r' with
    | nil => exact hs []
    | cons c r' =>
      have hc : ¬ (c = 'e' ∨ c = 'E') := by
        rintro (rfl | rfl)
        · exact hr'.noLowerE rfl
        · exact hr'.noUpperE rfl
      simp only [exponentOrEnd, if_neg hc]
      exact hs _
  cases cs with
  | nil => exact hend h
  | cons c cs =>
    by_cases hc : c = 'e' ∨ c = 'E'
    · simp only [exponentOrEnd, if_pos hc] at h
      obtain ⟨t, rfl, hchars, htakes⟩ := exponent_takesFront h
      refine ⟨c :: t, rfl, fun x hx => ?_, fun r' hr' => ?_⟩
      · rcases List.mem_cons.1 hx with rfl | hx
        · rcases hc with rfl | rfl <;> decide
        · exact hchars x hx
      · simp only [List.cons_append, exponentOrEnd, if_pos hc]
        exact htakes r' hr'
    · simp only [exponentOrEnd, if_neg hc] at h
      exact hend h

/-- a run of digits in front of what another reader takes -/
theorem takesFront_digits {f g : List Char → Except Stop (Number × List Char)} {ds cs r : List Char} {n : Number}
    (hd : ∀ c ∈ ds, c.isDigit = true) (hcs : NoDigit cs) (hf : ∀ u, NoDigit u → f (ds ++ u) = g u)
    (h : TakesFront g cs n r) : TakesFront f (ds ++ cs) n r := by
  obtain ⟨t, rfl, hchars, htakes⟩ := h
  refine ⟨ds ++ t, by rw [List.append_assoc], fun c hc => ?_, fun r' hr' => ?_⟩
  · rcases List.mem_append.1 hc with hc | hc
    · exact isNumeralChar_of_isDigit (hd c hc)
    · exact hchars c hc
  · rw [List.append_assoc, hf _ (hcs.replace hr')]
    exact htakes r' hr'

theorem places_takesFront {positive : Bool} {digits : Nat} {e : Int} {cs r : List Char} {n : Number}
    (h : places positive digits e cs = .ok (n, r)) : TakesFront (places positive digits e) cs n r := by
  have hne : cs.takeWhile Char.isDigit ≠ [] := by
    intro h0
    simp [places, h0] at h
  have hd := isDigit_of_mem_takeWhile cs
  have hsplit := List.takeWhile_append_dropWhile (p := Char.isDigit) (l := cs)
  have hnext : ∀ u, NoDigit u → places positive digits e (cs.takeWhile Char.isDigit ++ u) =
      exponentOrEnd positive (collect digits (cs.takeWhile Char.isDigit)).1
        (e - ((cs.takeWhile Char.isDigit).length - (collect digits (cs.takeWhile Char.isDigit)).2.length : Nat)) u := by
    intro u hu
    obtain ⟨h1, h2⟩ := span_digits hd hu
    simp only [places, h1, h2, if_neg hne]
  rw [← hsplit] at h ⊢
  rw [hnext _ (noDigit_dropWhile cs)] at h
  exact takesFront_digits hd (noDigit_dropWhile cs) hnext (exponentOrEnd_takesFront h)

theorem afterWhole_takesFront {positive : Bool} {m extra : Nat} {cs r : List Char} {n : Number}
    (h : afterWhole positive m extra cs = .ok (n, r)) : TakesFront (afterWhole positive m extra) cs n r := by
  have hcons : ∀ (x : Char) (f : List Char → Except Stop (Number × List Char)) (cs' : List Char),
      isNumeralChar x = true → (∀ u, afterWhole positive m extra (x :: u) = f u) → TakesFront f cs' n r →
      TakesFront (afterWhole positive m extra) (x :: cs') n r := by
    rintro x f cs' hx hf ⟨t, rfl, hchars, htakes⟩
    refine ⟨x :: t, rfl, fun c hc => ?_, fun r' hr' => by rw [List.cons_append, hf]; exact htakes r' hr'⟩
    rcases List.mem_cons.1 hc with rfl | hc
    · exact hx
    · exact hchars c hc
  unfold afterWhole at h
  split at h
  · exact hcons '.' _ _ (by decide) (fun _ => rfl) (places_takesFront h)
  · exact hcons 'e' _ _ (by decide) (fun _ => rfl) (exponent_takesFront h)
  · exact hcons 'E' _ _ (by decide) (fun _ => rfl) (exponent_takesFront h)
  · -- the number ends here
    have hrest : ∀ u, Ends u → afterWhole positive m extra u =
        if extra = 0 then .ok (whole positive m, u) else scaled positive m extra u := by
      intro u hu
      unfold afterWhole
      split
      · exact absurd rfl hu.noPoint
      · exact absurd rfl hu.noLowerE
      · exact absurd rfl hu.noUpperE
      · rfl
    split_ifs at h with hx
    · cases h
      exact ⟨[], rfl, by simp, fun r' hr' => by rw [List.nil_append, hrest r' hr', if_pos hx]⟩
    · obtain ⟨rfl, hs⟩ := scaled_takesFront h
      exact ⟨[], rfl, by simp, fun r' hr' => by rw [List.nil_append, hrest r' hr', if_neg hx]; exact hs r'⟩

/-! ## Whole numbers -/

theorem number_zero {positive : Bool} {u : List Char} (hu : NoDigit u) :
    Read.number positive ('0' :: u) = afterWhole positive 0 0 u := by
  cases u with
  | nil => simp [Read.number]
  | cons d u => simp [Read.number, hu d rfl]

theorem number_digits {positive : Bool} {ds u : List Char} (hne : ds ≠ []) (h0 : ds.head? ≠ some '0')
    (hd : ∀ c ∈ ds, c.isDigit = true) (hu : NoDigit u) :
    Read.number positive (ds ++ u) = afterWhole positive (collect 0 ds).1 (collect 0 ds).2.length u := by
  obtain ⟨h1, h2⟩ := span_digits hd hu
  obtain ⟨c, ds', rfl⟩ := List.exists_cons_of_ne_nil hne
  have hc := hd c List.mem_cons_self
  have hz : c ≠ '0' := fun e => h0 (by rw [e]; rfl)
  rw [List.cons_append] at h1 h2 ⊢
  simp only [Read.number, if_neg hz, hc, if_true, h1, h2]

theorem Numeral.of_takesFront {positive : Bool} {cs r : List Char} {n : Number} {c : Char} (hc : c.isDigit = true)
    (h : TakesFront (Read.number positive) (c :: cs) n r) (hlen : r.length ≤ cs.length) :
    ∃ t, c :: cs = t ++ r ∧ Numeral positive t n := by
  obtain ⟨t, ht, hchars, htakes⟩ := h
  refine ⟨t, ht, ?_, hchars, htakes⟩
  cases t with
  | nil =>
    rw [List.nil_append] at ht
    rw [← ht, List.length_cons] at hlen
    exact absurd hlen (Nat.not_succ_le_self _)
  | cons x t => exact ⟨x, t, rfl, (List.cons.inj ht).1 ▸ hc⟩

/-- **What is taken as a number is a numeral.** -/
theorem numeral_of_number {positive : Bool} {cs r : List Char} {n : Number} (h : Read.number positive cs = .ok (n, r)) :
    ∃ t, cs = t ++ r ∧ Numeral positive t n := by
  have hlen : ∀ {f : List Char → Except Stop (Number × List Char)} {u : List Char}, TakesFront f u n r →
      r.length ≤ u.length := by
    rintro f u ⟨t, rfl, -, -⟩
    simp
  cases cs with
  | nil => simp [Read.number] at h
  | cons c cs =>
    by_cases hz : c = '0'
    · subst hz
      have hu : NoDigit cs := by
        cases cs with
        | nil => simp [NoDigit]
        | cons d cs =>
          intro x hx
          rw [← Option.some.inj hx]
          by_contra hd
          rw [Bool.not_eq_false] at hd
          simp [Read.number, hd] at h
      rw [number_zero hu] at h
      have hfront := afterWhole_takesFront h
      have hzero : ∀ c ∈ ['0'], c.isDigit = true := List.forall_mem_singleton.2 (by decide)
      have hall := takesFront_digits hzero hu (fun u hu => number_zero hu) hfront
      exact Numeral.of_takesFront (by decide) hall (hlen hfront)
    · by_cases hc : c.isDigit = true
      · have hd := isDigit_of_mem_takeWhile (c :: cs)
        have hsplit := List.takeWhile_append_dropWhile (p := Char.isDigit) (l := c :: cs)
        have hne : (c :: cs).takeWhile Char.isDigit ≠ [] := by simp [hc]
        have h0 : ((c :: cs).takeWhile Char.isDigit).head? ≠ some '0' := by simp [hc, hz]
        rw [← hsplit, number_digits hne h0 hd (noDigit_dropWhile _)] at h
        have hfront := afterWhole_takesFront h
        have hall := takesFront_digits hd (noDigit_dropWhile _) (fun u hu => number_digits hne h0 hd hu) hfront
        rw [hsplit] at hall
        refine Numeral.of_takesFront hc hall ((hlen hfront).trans ?_)
        rw [List.dropWhile_cons_of_pos hc]
        exact List.length_dropWhile_le _ _
      · simp [Read.number, hz, hc] at h

/-- digits whose value is below the bound are all collected -/
theorem collect_eq {n : Nat} {ds : List Char} (h : Nat.ofDigitChars 10 ds n < twoTo 64) :
    collect n ds = (Nat.ofDigitChars 10 ds n, []) := by
  induction ds generalizing n with
  | nil => simp [collect]
  | cons c ds ih =>
    rw [Nat.ofDigitChars_cons] at h ⊢
    have hle := Digits.le_ofDigitChars ds (10 * n + (c.toNat - '0'.toNat))
    simp only [collect, if_pos (Nat.lt_of_le_of_lt hle h)]
    exact ih h

/-- decimal digits do not begin with a zero -/
theorem head?_toDigits {n : Nat} (h : 0 < n) : (Nat.toDigits 10 n).head? ≠ some '0' := by
  induction n using Nat.strong_induction_on with
  | _ n ih =>
    by_cases hn : n < 10
    · have hchar : ∀ d < 10, 0 < d → Nat.digitChar d ≠ '0' := by decide
      rw [Nat.toDigits_of_lt_base hn]
      simpa using hchar n hn h
    · rw [Nat.toDigits_of_base_le (by decide) (Nat.le_of_not_lt hn), List.head?_append_of_ne_nil _ Nat.toDigits_ne_nil]
      exact ih (n / 10) (by omega) (by omega)

/-- **Digits are numerals.** The decimal digits of a natural below 2 ^ 64 are read as the integer they stand for. -/
theorem numeral_digits (positive : Bool) {n : Nat} (h : n < twoTo 64) :
    Numeral positive (Digits.ofNat n) (whole positive n) := by
  have hd : ∀ c ∈ Digits.ofNat n, c.isDigit = true :=
    fun c hc => Nat.isDigit_of_mem_toDigits (by decide) (by decide) hc
  have hend : ∀ r, Ends r → afterWhole positive n 0 r = .ok (whole positive n, r) := by
    intro r hr
    unfold afterWhole
    split
    · exact absurd rfl hr.noPoint
    · exact absurd rfl hr.noLowerE
    · exact absurd rfl hr.noUpperE
    · rfl
  refine ⟨?_, fun c hc => isNumeralChar_of_isDigit (hd c hc), fun r hr => ?_⟩
  · obtain ⟨c, u, hc⟩ := List.exists_cons_of_ne_nil (Nat.toDigits_ne_nil (n := n) (b := 10))
    exact ⟨c, u, hc, hd c (by rw [Digits.ofNat, hc]; exact List.mem_cons_self)⟩
  · rcases Nat.eq_zero_or_pos n with rfl | hpos
    · rw [Digits.ofNat, Nat.toDigits_zero]
      exact (number_zero hr.noDigit).trans (hend r hr)
    · have hval : Nat.ofDigitChars 10 (Digits.ofNat n) 0 = n := Nat.ofDigitChars_ten_toDigits
      have hne : Digits.ofNat n ≠ [] := Nat.toDigits_ne_nil
      rw [number_digits hne (head?_toDigits hpos) hd hr.noDigit, collect_eq (by rw [hval]; exact h), hval]
      exact hend r hr

end CommentDigest.Json
