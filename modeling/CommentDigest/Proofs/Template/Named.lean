/-
Filling a template piece by piece.

In the named dialect a placeholder holds no quote and no opening brace but its first, which stands in front of a dollar
sign. So a template can be filled in pieces in front of a quote or an opening brace, at any character that is no opening
brace, and behind an opening brace that no dollar sign follows. Inside a string literal, values that are written out in the form of literals stay so.

- `fillNamed_append_quote`, `fillNamed_append_of_notMem`, `fillNamed_brace`, `fillNamed_around`: where a template can be
  taken apart
- `FillsPiece`: a stretch of a template that is filled on its own, whatever stands behind it
- `fillNamed_of_not_occurs`: a text without placeholders is its own filling
- `body_fillNamed`: filling a literal with written values writes the filled literal
-/
import CommentDigest.Proofs.Json.Literal
import CommentDigest.Proofs.Template.Occurrences

namespace CommentDigest.Template

open Json

/-- a named template filled in; a missing value is nothing -/
def fillNamed (f : String → Option String) (cs : List Char) : List Char := fillChars cs (.named f) .empty

/-! ## Tokens of pieces -/

/-- a text that begins with no opening brace begins with no placeholder -/
theorem placeholder?_cons_of_ne {d : Dialect} {c : Char} (hc : c ≠ '{') (cs : List Char) :
    placeholder? d (c :: cs) = none := by
  cases h : placeholder? d (c :: cs) with
  | none => rfl
  | some p =>
    obtain ⟨hp, b, hb⟩ := legal_of_placeholder? h
    obtain ⟨t, ht, -⟩ := hp.text_eq
    rw [ht, List.cons_append] at hb
    exact absurd (List.cons.inj hb).1.symm hc

theorem quote_notMem_text {p : Placeholder} (h : p.Legal .named) : '"' ∉ p.text := by
  cases p with
  | name n =>
    have hn := isNameChar_of_isName (show isName n = true from h)
    intro hq
    simp only [Placeholder.text, List.mem_cons, List.mem_append, List.not_mem_nil, or_false] at hq
    rcases hq with hq | hq | hq | hq
    · exact absurd hq (by decide)
    · exact absurd hq (by decide)
    · exact absurd (hn _ hq) (by decide)
    · exact absurd hq (by decide)
  | index ds => exact absurd h id
  | next => exact absurd h id

/-- a prefix without a character ends in front of it -/
theorem prefix_of_prefix_append {t a b : List Char} {q : Char} (h : t <+: a ++ q :: b) (hq : q ∉ t) : t <+: a := by
  rcases List.prefix_or_prefix_of_prefix h (List.prefix_append a (q :: b)) with hta | ⟨u, rfl⟩
  · exact hta
  · have hu := (List.prefix_append_right_inj a).1 h
    cases u with
    | nil => simp
    | cons x u =>
      obtain ⟨e, he⟩ := hu
      have hx : x = q := (List.cons.inj he).1
      exact absurd (List.mem_append_right a List.mem_cons_self) (hx ▸ hq)

/-- a character that no placeholder holds behind its opening brace -/
def Breaks (q : Char) : Prop := ∀ p : Placeholder, p.Legal .named → ∀ t, p.text = '{' :: t → q ∉ t

theorem breaks_quote : Breaks '"' := fun _ h _ ht hq => quote_notMem_text h (ht ▸ List.mem_cons_of_mem _ hq)

theorem breaks_brace : Breaks '{' := by
  intro p h t ht
  obtain ⟨u, hu, hnot⟩ := h.text_eq
  rw [hu] at ht
  rwa [← (List.cons.inj ht).2]

/-- a text can be cut in front of a character that no placeholder reaches across -/
theorem tokens_append_break {q : Char} (hq : Breaks q) (a b : List Char) :
    tokens .named (a ++ q :: b) = tokens .named a ++ tokens .named (q :: b) := by
  induction a using scan_induction (d := .named) with
  | nil => rw [tokens, List.nil_append, List.nil_append]
  | placeholder p cs hp ih => rw [List.append_assoc, tokens_text_append hp, ih, tokens_text_append hp, List.cons_append]
  | literal x cs hx ih =>
    have hx' : placeholder? .named (x :: (cs ++ q :: b)) = none := by
      cases h : placeholder? .named (x :: (cs ++ q :: b)) with
      | none => rfl
      | some p =>
        -- a placeholder that begins with `x` would end before `q`, so the text in front of `q` would begin with it
        obtain ⟨hp, hpre⟩ := legal_of_placeholder? h
        obtain ⟨t, ht, -⟩ := hp.text_eq
        rw [ht, List.cons_prefix_cons] at hpre
        have hcs : p.text <+: x :: cs := by
          rw [ht, List.cons_prefix_cons]
          exact ⟨hpre.1, prefix_of_prefix_append hpre.2 (hq p hp t ht)⟩
        rw [placeholder?_eq_some_iff.2 ⟨hp, hcs⟩] at hx
        cases hx
    rw [List.cons_append, tokens_cons_of_none hx', ih, tokens_cons_of_none hx, List.cons_append]

/-! ## Pieces -/

/-- named values are not counted -/
theorem fillTokens_named_taken (f : String → Option String) (ts : List Token) (k : Nat) :
    fillTokens (.named f) .empty k ts = fillTokens (.named f) .empty 0 ts := by
  induction ts generalizing k with
  | nil => rfl
  | cons t ts ih =>
    cases t with
    | literal c => rw [fillTokens, fillTokens, ih]
    | placeholder p =>
      have hr : replacement (.named f) .empty k p = replacement (.named f) .empty 0 p := by
        cases p <;> rfl
      rw [fillTokens, fillTokens, hr, ih, ih (if p = .next then 0 + 1 else 0)]

theorem fillTokens_named_append (f : String → Option String) (ts us : List Token) :
    fillTokens (.named f) .empty 0 (ts ++ us) =
      fillTokens (.named f) .empty 0 ts ++ fillTokens (.named f) .empty 0 us := by
  induction ts with
  | nil => rfl
  | cons t ts ih =>
    cases t with
    | literal c => rw [List.cons_append, fillTokens, fillTokens, ih, List.cons_append]
    | placeholder p =>
      have htaken := fun ts => fillTokens_named_taken f ts (if p = .next then 0 + 1 else 0)
      rw [List.cons_append, fillTokens, fillTokens, htaken, htaken, ih, List.append_assoc]

variable (f : String → Option String)

theorem fillNamed_nil : fillNamed f [] = [] := by
  rw [fillNamed, fillChars, tokens, fillTokens]

theorem fillNamed_cons_of_none {c : Char} {cs : List Char} (h : placeholder? .named (c :: cs) = none) :
    fillNamed f (c :: cs) = c :: fillNamed f cs := by
  rw [fillNamed, fillChars, Values.dialect, tokens_cons_of_none h, fillTokens]
  rfl

theorem fillNamed_text_append {p : Placeholder} (h : p.Legal .named) (cs : List Char) :
    fillNamed f (p.text ++ cs) = replacement (.named f) .empty 0 p ++ fillNamed f cs := by
  rw [fillNamed, fillChars, Values.dialect, tokens_text_append h, fillTokens, fillTokens_named_taken]
  rfl

theorem fillNamed_cons {c : Char} (hc : c ≠ '{') (cs : List Char) : fillNamed f (c :: cs) = c :: fillNamed f cs :=
  fillNamed_cons_of_none f (placeholder?_cons_of_ne hc cs)

/-- a text without opening braces is copied -/
theorem fillNamed_append_of_notMem {a : List Char} (h : '{' ∉ a) (b : List Char) :
    fillNamed f (a ++ b) = a ++ fillNamed f b := by
  induction a with
  | nil => rfl
  | cons c a ih =>
    obtain ⟨hc, ha⟩ := not_or.1 (mt List.mem_cons.2 h)
    rw [List.cons_append, fillNamed_cons f (Ne.symm hc), ih ha, List.cons_append]

/-- an opening brace without a dollar sign behind it is copied -/
theorem fillNamed_brace {cs : List Char} (h : cs.head? ≠ some '$') :
    fillNamed f ('{' :: cs) = '{' :: fillNamed f cs := by
  apply fillNamed_cons_of_none
  cases hp : placeholder? .named ('{' :: cs) with
  | none => rfl
  | some p =>
    obtain ⟨hlegal, b, hb⟩ := legal_of_placeholder? hp
    cases p with
    | name n =>
      rw [Placeholder.text, List.cons_append] at hb
      rw [← (List.cons.inj hb).2] at h
      exact absurd rfl h
    | index ds => exact absurd hlegal id
    | next => exact absurd hlegal id

theorem fillNamed_append_break {q : Char} (hq : Breaks q) (a b : List Char) :
    fillNamed f (a ++ q :: b) = fillNamed f a ++ fillNamed f (q :: b) := by
  rw [fillNamed, fillChars, Values.dialect, tokens_append_break hq, fillTokens_named_append]
  rfl

/-- what stands in front of a quote is filled on its own -/
theorem fillNamed_append_quote (a b : List Char) :
    fillNamed f (a ++ '"' :: b) = fillNamed f a ++ '"' :: fillNamed f b := by
  rw [fillNamed_append_break f breaks_quote, fillNamed_cons f (by decide)]

/-- a placeholder is replaced, and what stands around it is filled on its own -/
theorem fillNamed_around {p : Placeholder} (h : p.Legal .named) (a b : List Char) :
    fillNamed f (a ++ (p.text ++ b)) = fillNamed f a ++ (replacement (.named f) .empty 0 p ++ fillNamed f b) := by
  obtain ⟨t, ht, -⟩ := h.text_eq
  rw [ht, List.cons_append, fillNamed_append_break f breaks_brace, ← List.cons_append, ← ht, fillNamed_text_append f h]

/-- the text is filled as `t'`, and what stands behind it is filled on its own -/
def FillsPiece (t t' : List Char) : Prop := ∀ r, fillNamed f (t ++ r) = t' ++ fillNamed f r

variable {f}

theorem FillsPiece.append {t t' u u' : List Char} (h : FillsPiece f t t') (h' : FillsPiece f u u') :
    FillsPiece f (t ++ u) (t' ++ u') := by
  intro r
  rw [List.append_assoc, h, h', List.append_assoc]

theorem FillsPiece.cons {c : Char} {t t' : List Char} (hc : c ≠ '{') (h : FillsPiece f t t') :
    FillsPiece f (c :: t) (c :: t') := by
  intro r
  rw [List.cons_append, fillNamed_cons f hc, h, List.cons_append]

theorem fillsPiece_self {t : List Char} (h : '{' ∉ t) : FillsPiece f t t := fillNamed_append_of_notMem f h

/-- a text is filled on its own up to and with a quote -/
theorem fillsPiece_quote (t : List Char) : FillsPiece f (t ++ ['"']) (fillNamed f t ++ ['"']) := by
  intro r
  rw [List.append_assoc, List.singleton_append, fillNamed_append_quote, List.append_assoc, List.singleton_append]

variable (f)

/-- a text without placeholders is its own filling -/
theorem fillNamed_of_not_occurs {cs : List Char} (h : ∀ i p, ¬ Occurs .named cs i p) : fillNamed f cs = cs := by
  induction cs with
  | nil => exact fillNamed_nil f
  | cons c cs ih =>
    have hnone : placeholder? .named (c :: cs) = none := by
      cases hp : placeholder? .named (c :: cs) with
      | none => rfl
      | some p => exact absurd (occurs_zero.2 hp) (h 0 p)
    rw [fillNamed_cons_of_none f hnone, ih fun i p hp => h (i + 1) p (occurs_succ.2 hp)]

/-- a template without placeholders is its own filling -/
theorem fill_of_not_occurs {s : String} (h : ∀ i p, ¬ Occurs .named s.toList i p) : fill s (.named f) .empty = s := by
  have hchars : fillChars s.toList (.named f) .empty = s.toList := fillNamed_of_not_occurs f h
  rw [fill, hchars, String.ofList_toList]

/-! ## Literals -/

/-- the same names have values, and those of `f` are those of `g` as they are written in a string literal -/
def WrittenAs (f g : String → Option String) : Prop :=
  ∀ name, Option.Rel (fun a b => Body a.toList b.toList) (f name) (g name)

variable {f}

theorem replacement_name (f : String → Option String) (n : List Char) :
    replacement (.named f) .empty 0 (.name n) = ((f (String.ofList n)).map String.toList).getD [] := by
  have hempty : Fallback.empty.shown (.name n) = [] := String.toList_empty
  rw [replacement_eq, hempty]
  rfl

theorem body_replacement {g : String → Option String} (hfg : WrittenAs f g) (p : Placeholder) :
    Body (replacement (.named f) .empty 0 p) (replacement (.named g) .empty 0 p) := by
  have hempty : Body "".toList "".toList := by
    rw [String.toList_empty]
    exact .nil
  cases p with
  | name n =>
    have hn := hfg (String.ofList n)
    rw [replacement_name, replacement_name]
    generalize f (String.ofList n) = a, g (String.ofList n) = b at hn
    cases hn with
    | some h => exact h
    | none => exact .nil
  | index ds => exact hempty
  | next => exact hempty

/-- **Literals stay literals.** Where a text can stand in a literal as it is, its filling with written values writes its
filling with the values themselves. -/
theorem body_fillNamed {g : String → Option String} (hfg : WrittenAs f g) {cs : List Char}
    (hcs : Unescaped cs) : Body (fillNamed f cs) (fillNamed g cs) := by
  induction cs using scan_induction (d := .named) with
  | nil =>
    rw [fillNamed_nil, fillNamed_nil]
    exact .nil
  | placeholder p cs hp ih =>
    rw [fillNamed_text_append f hp, fillNamed_text_append g hp]
    exact (body_replacement hfg p).append (ih fun c hc => hcs c (List.mem_append_right _ hc))
  | literal x cs hx ih =>
    obtain ⟨hhead, htail⟩ := List.forall_mem_cons.1 hcs
    rw [fillNamed_cons_of_none f hx, fillNamed_cons_of_none g hx]
    exact .cons (.plain hhead.1 hhead.2.1 hhead.2.2) (ih htail)

end CommentDigest.Template
