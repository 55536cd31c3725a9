/-
Placeholders, wherever they stand in a template.

An occurrence is any stretch of a template that is spelled like a placeholder of the dialect, at any place and whatever
surrounds it (`Occurs`). The scanner goes from left to right and never looks back; here it is compared with the set of
all occurrences.

- `placeholder?_eq_some_iff`: a look at one place finds a placeholder exactly when one occurs there
- `occurs_disjoint`: two occurrences share no character, because a placeholder has its only opening brace in front
- `Cut`, `Cut.Complete`: a template written as literal text and placeholders in turn, all occurrences among them
- `cutOf_complete`, `Cut.Complete.unique`: every template can be written so, and in one way only
- `Cut.Complete.fill_eq`: filling replaces every occurrence and copies everything else
-/
import CommentDigest.Template
import Mathlib.Data.List.Sort

namespace CommentDigest.Template

/-! ## Occurrences -/

/-- the placeholder is spelled as the dialect asks -/
def Placeholder.Legal : Dialect → Placeholder → Prop
  | .named, .name n => isName n = true
  | .positional, .index ds => isIndex ds = true
  | .positional, .next => True
  | _, _ => False

/-- the placeholder stands at a place of a text -/
def Occurs (d : Dialect) (cs : List Char) (i : Nat) (p : Placeholder) : Prop :=
  p.Legal d ∧ p.text <+: cs.drop i

theorem isNameChar_of_isName {n : List Char} (h : isName n = true) : ∀ c ∈ n, isNameChar c = true := by
  cases n with
  | nil => simp
  | cons a as =>
    simp only [isName, Bool.and_eq_true, List.all_eq_true] at h
    intro c hc
    rcases List.mem_cons.1 hc with rfl | hc
    · have ha := h.1
      simp only [isNameStart, isNameChar, Char.isAlphanum, Bool.or_eq_true] at ha ⊢
      tauto
    · exact h.2 c hc

theorem isDigit_of_isIndex {ds : List Char} (h : isIndex ds = true) : ∀ c ∈ ds, c.isDigit = true := by
  cases ds with
  | nil => simp
  | cons a as =>
    simp only [isIndex, Bool.and_eq_true, List.all_eq_true] at h
    intro c hc
    rcases List.mem_cons.1 hc with rfl | hc
    · exact h.1.1
    · exact h.2 c hc

theorem Placeholder.text_ne_nil (p : Placeholder) : p.text ≠ [] := by
  cases p <;> simp [Placeholder.text]

theorem Placeholder.text_length_pos (p : Placeholder) : 0 < p.text.length :=
  List.length_pos_iff.2 p.text_ne_nil

/-- behind its first character a placeholder holds no opening brace -/
theorem Placeholder.Legal.text_eq {d : Dialect} {p : Placeholder} (h : p.Legal d) :
    ∃ t, p.text = '{' :: t ∧ '{' ∉ t := by
  cases p with
  | name n =>
    refine ⟨_, rfl, fun hm => ?_⟩
    have hn : isName n = true := by
      cases d with
      | named => exact h
      | positional => exact absurd h id
    simp only [List.mem_cons, List.mem_append, List.not_mem_nil, or_false] at hm
    rcases hm with hm | hm | hm
    · exact absurd hm (by decide)
    · exact absurd (isNameChar_of_isName hn _ hm) (by decide)
    · exact absurd hm (by decide)
  | index ds =>
    refine ⟨_, rfl, fun hm => ?_⟩
    have hd : isIndex ds = true := by
      cases d with
      | named => exact absurd h id
      | positional => exact h
    simp only [List.mem_cons, List.mem_append, List.not_mem_nil, or_false] at hm
    rcases hm with hm | hm | hm
    · exact absurd hm (by decide)
    · exact absurd (isDigit_of_isIndex hd _ hm) (by decide)
    · exact absurd hm (by decide)
  | next => exact ⟨_, rfl, by decide⟩

/-- a run of characters that pass a test ends in front of one that fails it -/
theorem span_before {f : Char → Bool} {a : List Char} {x : Char} {b : List Char} (ha : ∀ c ∈ a, f c = true)
    (hx : f x = false) : (a ++ x :: b).takeWhile f = a ∧ (a ++ x :: b).dropWhile f = x :: b := by
  rw [List.takeWhile_append_of_pos ha, List.dropWhile_append_of_pos ha]
  simp [hx]

/-- what a run leaves behind, from its first character on -/
theorem eq_append_of_head?_dropWhile {f : Char → Bool} {r : List Char} {x : Char}
    (h : (r.dropWhile f).head? = some x) : ∃ b, r = r.takeWhile f ++ x :: b := by
  obtain ⟨b, hb⟩ := List.head?_eq_some_iff.1 h
  exact ⟨b, by rw [← hb, List.takeWhile_append_dropWhile]⟩

/-- the scanner recognises every placeholder, whatever follows -/
theorem placeholder?_text_append {d : Dialect} {p : Placeholder} (h : p.Legal d) (b : List Char) :
    placeholder? d (p.text ++ b) = some p := by
  cases d with
  | named =>
    cases p with
    | name n =>
      have hn : isName n = true := h
      obtain ⟨h1, h2⟩ := span_before (b := b) (isNameChar_of_isName hn) (show isNameChar '}' = false by decide)
      simp [placeholder?, Placeholder.text, h1, h2, hn]
    | index ds => exact absurd h id
    | next => exact absurd h id
  | positional =>
    cases p with
    | name n => exact absurd h id
    | index ds =>
      have hd : isIndex ds = true := h
      obtain ⟨h1, h2⟩ := span_before (b := b) (isDigit_of_isIndex hd) (show Char.isDigit '}' = false by decide)
      have e : (Placeholder.index ds).text ++ b = '{' :: '#' :: (ds ++ '}' :: b) := by simp [Placeholder.text]
      rw [e]
      simp only [placeholder?]
      split
      · -- digits never begin with the letter of the cursor
        rename_i t ht
        cases ds with
        | nil => exact absurd hd (by decide)
        | cons a as =>
          have ha : a = 'n' := (List.cons.inj ht).1
          exact absurd (isDigit_of_isIndex hd a List.mem_cons_self) (by rw [ha]; decide)
      · simp [h1, h2, hd]
    | next => simp [placeholder?, Placeholder.text]

/-- what the scanner recognises is a placeholder of the dialect, spelled out in front of it -/
theorem legal_of_placeholder? {d : Dialect} {cs : List Char} {p : Placeholder} (h : placeholder? d cs = some p) :
    p.Legal d ∧ p.text <+: cs := by
  unfold placeholder? at h
  split at h
  · dsimp only at h
    split_ifs at h with hc
    obtain ⟨b, hb⟩ := eq_append_of_head?_dropWhile hc.2
    cases h
    refine ⟨hc.1, b, ?_⟩
    conv_rhs => rw [hb]
    simp [Placeholder.text]
  · split at h
    · cases h
      exact ⟨trivial, by simp [Placeholder.text]⟩
    · dsimp only at h
      split_ifs at h with hc
      obtain ⟨b, hb⟩ := eq_append_of_head?_dropWhile hc.2
      cases h
      refine ⟨hc.1, b, ?_⟩
      conv_rhs => rw [hb]
      simp [Placeholder.text]
  · cases h

/-- **One look.** The scanner finds a placeholder at the front of a text exactly when one stands there. -/
theorem placeholder?_eq_some_iff {d : Dialect} {cs : List Char} {p : Placeholder} :
    placeholder? d cs = some p ↔ p.Legal d ∧ p.text <+: cs := by
  refine ⟨legal_of_placeholder?, ?_⟩
  rintro ⟨h, b, rfl⟩
  exact placeholder?_text_append h b

theorem occurs_zero {d : Dialect} {cs : List Char} {p : Placeholder} :
    Occurs d cs 0 p ↔ placeholder? d cs = some p := by
  rw [placeholder?_eq_some_iff, Occurs, List.drop_zero]

theorem occurs_succ {d : Dialect} {c : Char} {cs : List Char} {i : Nat} {p : Placeholder} :
    Occurs d (c :: cs) (i + 1) p ↔ Occurs d cs i p := Iff.rfl

/-- nothing stands at a place inside a placeholder -/
theorem not_occurs_inside {d : Dialect} {cs : List Char} {i j : Nat} {p q : Placeholder} (hp : Occurs d cs i p)
    (hij : i < j) (hj : j < i + p.text.length) : ¬ Occurs d cs j q := by
  intro hq
  obtain ⟨t, ht, hnt⟩ := hp.1.text_eq
  obtain ⟨u, hu, -⟩ := hq.1.text_eq
  obtain ⟨b, hb⟩ := hp.2
  obtain ⟨e, he⟩ := hq.2
  have hd : cs.drop j = (t ++ b).drop (j - i - 1) := by
    rw [show j = i + (1 + (j - i - 1)) by omega, ← List.drop_drop, ← hb, ht, ← List.drop_drop]
    simp
  have hlen : j - i - 1 < t.length := by rw [ht] at hj; simp only [List.length_cons] at hj; omega
  rw [← he, hu, List.drop_append_of_le_length hlen.le, List.drop_eq_getElem_cons hlen] at hd
  have hc : '{' = t[j - i - 1] := (List.cons.inj hd).1
  exact hnt (hc ▸ List.getElem_mem hlen)

/-- **Occurrences do not overlap.** -/
theorem occurs_disjoint {d : Dialect} {cs : List Char} {i j : Nat} {p q : Placeholder} (hp : Occurs d cs i p)
    (hq : Occurs d cs j q) : (i = j ∧ p = q) ∨ i + p.text.length ≤ j ∨ j + q.text.length ≤ i := by
  rcases Nat.lt_trichotomy i j with h | h | h
  · by_cases hj : j < i + p.text.length
    · exact absurd hq (not_occurs_inside hp h hj)
    · exact Or.inr (Or.inl (Nat.le_of_not_lt hj))
  · subst h
    have h1 := placeholder?_eq_some_iff.2 hp
    have h2 := placeholder?_eq_some_iff.2 hq
    rw [h1] at h2
    exact Or.inl ⟨rfl, Option.some.inj h2⟩
  · by_cases hi : i < j + q.text.length
    · exact absurd hp (not_occurs_inside hq h hi)
    · exact Or.inr (Or.inr (Nat.le_of_not_lt hi))

/-! ## Cuts -/

/-- a template cut at placeholders: literal text in front of each one, and the literal text behind the last -/
structure Cut where
  pieces : List (List Char × Placeholder)
  last : List Char
  deriving DecidableEq, Repr

namespace Cut

/-- the template again -/
def text (c : Cut) : List Char := (c.pieces.flatMap fun q => q.1 ++ q.2.text) ++ c.last

/-- where the placeholders of some pieces stand, when the first piece begins at `i` -/
def places : (i : Nat) → List (List Char × Placeholder) → List (Nat × Placeholder)
  | _, [] => []
  | i, (l, p) :: qs => (i + l.length, p) :: places (i + l.length + p.text.length) qs

/-- the cut writes the template with every occurrence as one of its placeholders, in order -/
structure Complete (d : Dialect) (cs : List Char) (c : Cut) : Prop where
  text_eq : c.text = cs
  occurs_iff : ∀ i p, Occurs d cs i p ↔ (i, p) ∈ places 0 c.pieces

/-- how many placeholders in front of the `k`-th take the next value -/
def taken (c : Cut) (k : Nat) : Nat := (c.pieces.take k).countP fun q => q.2 = .next

/-- the cut with its `k`-th placeholder `p` replaced by `r k p`, and its literal text as it is -/
def filled (c : Cut) (r : Nat → Placeholder → List Char) : List Char :=
  (c.pieces.mapIdx fun k q => q.1 ++ r k q.2).flatten ++ c.last

/-- one more literal character in front -/
def push (x : Char) (c : Cut) : Cut :=
  match c.pieces with
  | [] => ⟨[], x :: c.last⟩
  | (l, p) :: qs => ⟨(x :: l, p) :: qs, c.last⟩

/-- one more placeholder in front -/
def place (p : Placeholder) (c : Cut) : Cut := ⟨([], p) :: c.pieces, c.last⟩

theorem text_push (x : Char) (c : Cut) : (c.push x).text = x :: c.text := by
  obtain ⟨pieces, last⟩ := c
  cases pieces <;> simp [push, text]

theorem text_place (p : Placeholder) (c : Cut) : (c.place p).text = p.text ++ c.text := by
  simp [place, text]

theorem places_add (n i : Nat) (qs : List (List Char × Placeholder)) :
    places (n + i) qs = (places i qs).map fun x => (n + x.1, x.2) := by
  induction qs generalizing i with
  | nil => rfl
  | cons q qs ih =>
    obtain ⟨l, p⟩ := q
    simp only [places, List.map_cons]
    rw [show n + i + l.length + p.text.length = n + (i + l.length + p.text.length) by omega, ih, Nat.add_assoc]

theorem mem_places_add {n i j : Nat} {p : Placeholder} {qs : List (List Char × Placeholder)} :
    (n + j, p) ∈ places (n + i) qs ↔ (j, p) ∈ places i qs := by
  rw [places_add]
  simp only [List.mem_map, Prod.mk.injEq, Nat.add_left_cancel_iff, Prod.exists]
  constructor
  · rintro ⟨a, b, h, rfl, rfl⟩; exact h
  · intro h; exact ⟨j, p, h, rfl, rfl⟩

theorem le_of_mem_places {i : Nat} {qs : List (List Char × Placeholder)} : ∀ x ∈ places i qs, i ≤ x.1 := by
  induction qs generalizing i with
  | nil => simp [places]
  | cons q qs ih =>
    obtain ⟨l, p⟩ := q
    intro x hx
    rcases List.mem_cons.1 hx with rfl | hx
    · exact Nat.le_add_right _ _
    · have := ih x hx
      omega

theorem pairwise_places (i : Nat) (qs : List (List Char × Placeholder)) :
    (places i qs).Pairwise fun a b => a.1 < b.1 := by
  induction qs generalizing i with
  | nil => exact List.Pairwise.nil
  | cons q qs ih =>
    obtain ⟨l, p⟩ := q
    refine List.Pairwise.cons (fun x hx => ?_) (ih _)
    have := le_of_mem_places x hx
    have := p.text_length_pos
    simp only
    omega

theorem places_push (x : Char) (c : Cut) : places 0 (c.push x).pieces = places 1 c.pieces := by
  obtain ⟨pieces, last⟩ := c
  cases pieces with
  | nil => rfl
  | cons q qs =>
    obtain ⟨l, p⟩ := q
    simp only [push, places, List.length_cons]
    rw [show 0 + (l.length + 1) = 1 + l.length by omega]

/-- a character at which no placeholder begins is literal text -/
theorem Complete.push {d : Dialect} {x : Char} {cs : List Char} {c : Cut} (h : c.Complete d cs)
    (hx : placeholder? d (x :: cs) = none) : (c.push x).Complete d (x :: cs) := by
  refine ⟨by rw [text_push, h.text_eq], fun i p => ?_⟩
  rw [places_push]
  cases i with
  | zero =>
    rw [occurs_zero, hx]
    refine ⟨fun h0 => absurd h0 (by simp), fun hm => ?_⟩
    exact absurd (le_of_mem_places _ hm) (Nat.not_succ_le_zero 0)
  | succ i =>
    rw [occurs_succ, h.occurs_iff, Nat.add_comm i 1]
    exact (mem_places_add (n := 1) (i := 0)).symm

/-- behind a placeholder the occurrences are those of the rest -/
theorem Complete.place {d : Dialect} {p : Placeholder} {cs : List Char} {c : Cut} (h : c.Complete d cs)
    (hp : p.Legal d) : (c.place p).Complete d (p.text ++ cs) := by
  refine ⟨by rw [text_place, h.text_eq], fun i q => ?_⟩
  have h0 : Occurs d (p.text ++ cs) 0 p := ⟨hp, by simp⟩
  have hpos := p.text_length_pos
  simp only [Cut.place, places, List.length_nil, Nat.zero_add, List.mem_cons, Prod.mk.injEq]
  by_cases hi : i < p.text.length
  · constructor
    · intro hq
      rcases occurs_disjoint h0 hq with ⟨rfl, rfl⟩ | hle | hle
      · exact Or.inl ⟨rfl, rfl⟩
      · omega
      · have := q.text_length_pos
        omega
    · rintro (⟨rfl, rfl⟩ | hm)
      · exact h0
      · exact absurd (le_of_mem_places _ hm) (by simp only; omega)
  · obtain ⟨j, rfl⟩ := Nat.exists_eq_add_of_le (Nat.le_of_not_lt hi)
    have hd : Occurs d (p.text ++ cs) (p.text.length + j) q ↔ Occurs d cs j q := by
      simp only [Occurs, ← List.drop_drop, List.drop_left]
    rw [hd, h.occurs_iff, ← mem_places_add (n := p.text.length) (i := 0)]
    refine ⟨Or.inr, ?_⟩
    rintro (⟨h', -⟩ | hm)
    · omega
    · exact hm

/-- equal places and equal texts make equal pieces -/
theorem eq_of_places_eq {c c' : Cut} (i : Nat) (hp : places i c.pieces = places i c'.pieces) (ht : c.text = c'.text) :
    c = c' := by
  obtain ⟨qs, last⟩ := c
  obtain ⟨qs', last'⟩ := c'
  induction qs generalizing i qs' with
  | nil =>
    cases qs' with
    | nil => simpa [text] using ht
    | cons q qs' => simp [places] at hp
  | cons q qs ih =>
    obtain ⟨l, p⟩ := q
    cases qs' with
    | nil => simp [places] at hp
    | cons q' qs' =>
      obtain ⟨l', p'⟩ := q'
      simp only [places, List.cons.injEq, Prod.mk.injEq, Nat.add_left_cancel_iff] at hp
      obtain ⟨⟨hl, rfl⟩, hp⟩ := hp
      simp only [text, List.flatMap_cons, List.append_assoc] at ht
      obtain ⟨rfl, hrest⟩ := List.append_inj ht hl
      have hcut := ih (i + l.length + p.text.length) qs' hp (List.append_cancel_left hrest)
      cases hcut
      rfl

/-- **One way only.** Two cuts of a template at all of its occurrences are the same. -/
theorem Complete.unique {d : Dialect} {cs : List Char} {c c' : Cut} (h : c.Complete d cs) (h' : c'.Complete d cs) :
    c = c' := by
  refine eq_of_places_eq 0 ?_ (h.text_eq.trans h'.text_eq.symm)
  have hmem : ∀ x, x ∈ places 0 c.pieces ↔ x ∈ places 0 c'.pieces :=
    fun x => (h.occurs_iff x.1 x.2).symm.trans (h'.occurs_iff x.1 x.2)
  have : Std.Irrefl fun a b : Nat × Placeholder => a.1 < b.1 := ⟨fun a => Nat.lt_irrefl a.1⟩
  exact (pairwise_places 0 c.pieces).eq_of_mem_iff (pairwise_places 0 c'.pieces) hmem

end Cut

/-! ## The scanner's cut -/

/-- the cut that the tokens of a template make -/
def cutOf : List Token → Cut
  | [] => ⟨[], []⟩
  | .literal x :: ts => (cutOf ts).push x
  | .placeholder p :: ts => (cutOf ts).place p

/-- the tokens in front of and behind a placeholder at the start of a template -/
theorem tokens_text_append {d : Dialect} {p : Placeholder} (h : p.Legal d) (cs : List Char) :
    tokens d (p.text ++ cs) = .placeholder p :: tokens d cs := by
  obtain ⟨t, ht, -⟩ := h.text_eq
  have hs := placeholder?_text_append h cs
  rw [ht] at hs
  rw [ht, List.cons_append, tokens]
  rw [List.cons_append] at hs
  simp [hs, ht]

theorem tokens_cons_of_none {d : Dialect} {x : Char} {cs : List Char} (h : placeholder? d (x :: cs) = none) :
    tokens d (x :: cs) = .literal x :: tokens d cs := by
  rw [tokens, h]

/-- induction along the scan: at each place a placeholder is passed as a whole, or one character -/
theorem scan_induction {d : Dialect} {motive : List Char → Prop} (nil : motive [])
    (placeholder : ∀ (p : Placeholder) cs, p.Legal d → motive cs → motive (p.text ++ cs))
    (literal : ∀ x cs, placeholder? d (x :: cs) = none → motive cs → motive (x :: cs)) (cs : List Char) :
    motive cs := by
  induction hn : cs.length using Nat.strong_induction_on generalizing cs with
  | _ n ih =>
    cases cs with
    | nil => exact nil
    | cons x cs =>
      cases hx : placeholder? d (x :: cs) with
      | none => exact literal x cs hx (ih cs.length (by rw [← hn]; simp) cs rfl)
      | some p =>
        obtain ⟨hp, b, hb⟩ := legal_of_placeholder? hx
        rw [← hb]
        refine placeholder p b hp (ih b.length ?_ b rfl)
        have := p.text_length_pos
        rw [← hn, ← hb, List.length_append]
        omega

/-- **The scan misses nothing.** The scanner's tokens cut the template at all of its occurrences. -/
theorem cutOf_complete (d : Dialect) (cs : List Char) : (cutOf (tokens d cs)).Complete d cs := by
  induction cs using scan_induction (d := d) with
  | nil =>
    refine ⟨by simp [tokens, cutOf, Cut.text], fun i p => ?_⟩
    simp only [tokens, cutOf, Cut.places, List.not_mem_nil, iff_false]
    rintro ⟨-, b, hb⟩
    rw [List.drop_nil] at hb
    exact p.text_ne_nil (List.append_eq_nil_iff.1 hb).1
  | placeholder p cs hp ih =>
    rw [tokens_text_append hp]
    exact ih.place hp
  | literal x cs hx ih =>
    rw [tokens_cons_of_none hx]
    exact ih.push hx

/-- where the scanner finds only literal text, nothing stands anywhere -/
theorem not_occurs_of_pieces {d : Dialect} {cs : List Char} (h : (cutOf (tokens d cs)).pieces = []) (i : Nat)
    (p : Placeholder) : ¬ Occurs d cs i p := by
  intro hp
  have hm := ((cutOf_complete d cs).occurs_iff i p).1 hp
  rw [h] at hm
  exact List.not_mem_nil hm

theorem filled_place (p : Placeholder) (c : Cut) (r : Nat → Placeholder → List Char) :
    (c.place p).filled r = r 0 p ++ c.filled fun k => r (k + 1) := by
  simp [Cut.filled, Cut.place, List.mapIdx_cons]

theorem filled_push (x : Char) (c : Cut) (r : Nat → Placeholder → List Char) :
    (c.push x).filled r = x :: c.filled r := by
  obtain ⟨pieces, last⟩ := c
  cases pieces <;> simp [Cut.filled, Cut.push, List.mapIdx_cons]

theorem taken_place (p : Placeholder) (c : Cut) (k : Nat) :
    (c.place p).taken (k + 1) = (if p = .next then 1 else 0) + c.taken k := by
  simp only [Cut.taken, Cut.place, List.take_succ_cons, List.countP_cons]
  split_ifs with h1 h2 h2
  · omega
  · simp_all
  · simp_all
  · omega

theorem taken_push (x : Char) (c : Cut) (k : Nat) : (c.push x).taken k = c.taken k := by
  obtain ⟨pieces, last⟩ := c
  cases pieces with
  | nil => rfl
  | cons q qs =>
    cases k with
    | zero => rfl
    | succ k => simp [Cut.taken, Cut.push, List.countP_cons]

/-- filling the tokens is replacing the placeholders of their cut; the count of values taken goes along -/
theorem fillTokens_eq_filled (values : Values) (fallback : Fallback) (ts : List Token) (t : Nat) :
    fillTokens values fallback t ts =
      (cutOf ts).filled fun k p => replacement values fallback (t + (cutOf ts).taken k) p := by
  induction ts generalizing t with
  | nil => rfl
  | cons tok ts ih =>
    cases tok with
    | literal x =>
      rw [fillTokens, ih, cutOf, filled_push]
      simp only [taken_push]
    | placeholder p =>
      rw [fillTokens, ih, cutOf]
      have hk : ∀ k, t + ((cutOf ts).place p).taken (k + 1) =
          (if p = .next then t + 1 else t) + (cutOf ts).taken k := by
        intro k
        rw [taken_place]
        split_ifs <;> omega
      rw [filled_place]
      simp only [hk]
      rfl

/-! ## Filling -/

/-- what stands in for the value of a placeholder -/
def Fallback.shown (fallback : Fallback) (p : Placeholder) : List Char :=
  match fallback with
  | .text s => s.toList
  | .keep => p.text

theorem replacement_eq (values : Values) (fallback : Fallback) (taken : Nat) (p : Placeholder) :
    replacement values fallback taken p = ((values.value? taken p).map String.toList).getD (fallback.shown p) := by
  unfold replacement Fallback.shown
  cases values.value? taken p <;> cases fallback <;> rfl

/-- however a template is written as literal text and all of its occurrences in turn, filling replaces the occurrences -/
theorem Cut.Complete.fill_eq {template : String} {c : Cut} (values : Values) (fallback : Fallback)
    (h : c.Complete values.dialect template.toList) :
    (fill template values fallback).toList = c.filled fun k p => replacement values fallback (c.taken k) p := by
  rw [h.unique (cutOf_complete _ _), fill, String.toList_ofList, fillChars, fillTokens_eq_filled]
  simp only [Nat.zero_add]

end CommentDigest.Template
