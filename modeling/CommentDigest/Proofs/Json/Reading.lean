/-
The reader of JSON text reads the grammar: it accepts what `Spells` spells and nothing else.

- `reads_of_spells`: the reader reads what the grammar spells, in front of any text that does not go on a number
- `spells_of_value`: what the reader reads is spelled so by the grammar
- `parse_eq_ok_iff`: a text parses as a value exactly when it spells the value and ends in blanks
-/
import CommentDigest.Proofs.Json.Grammar

namespace CommentDigest.Json

open Read

/-! ## What the reader looks at -/

theorem eq_append_of_word {ls cs r : List Char} (h : word ls cs = .ok r) : cs = ls ++ r := by
  induction ls generalizing cs with
  | nil =>
    cases h
    rfl
  | cons l ls ih =>
    cases cs with
    | nil => simp [word] at h
    | cons c cs =>
      simp only [word] at h
      split_ifs at h with hc
      · rw [hc, ih h, List.cons_append]
      · simp at h

/-- a step of a reader that has gone well -/
theorem ok_of_bind {α β ε : Type} {x : Except ε α} {f : α → Except ε β} {b : β} (h : x >>= f = .ok b) :
    ∃ a, x = .ok a ∧ f a = .ok b := by
  cases x with
  | error e => cases h
  | ok a => exact ⟨a, rfl, h⟩

theorem value_skipBlanks (n : Nat) (cs : List Char) : value n (skipBlanks cs) = value n cs := by
  rw [value.eq_def, value.eq_def n cs, skipBlanks_skipBlanks]

theorem value_blank (n : Nat) {c : Char} (h : isBlank c = true) (cs : List Char) : value n (c :: cs) = value n cs := by
  rw [← value_skipBlanks, skipBlanks_blank h, value_skipBlanks]

theorem value_quote (n : Nat) (cs : List Char) :
    value n ('"' :: cs) = (stringBody cs).map fun p => (.string (String.ofList p.1), p.2) := by
  rw [value.eq_def, skipBlanks_cons (by decide)]
  simp only [Char.reduceEq, Char.reduceIsDigit, Bool.false_eq_true, if_false, if_true]
  cases stringBody cs <;> rfl

theorem nextItem_blank (first : Bool) {c : Char} (h : isBlank c = true) (cs : List Char) :
    nextItem first (c :: cs) = nextItem first cs := by
  rw [nextItem.eq_def, nextItem.eq_def first cs, skipBlanks_blank h]

theorem nextName_blank (first : Bool) {c : Char} (h : isBlank c = true) (cs : List Char) :
    nextName first (c :: cs) = nextName first cs := by
  rw [nextName.eq_def, nextName.eq_def first cs, skipBlanks_blank h]

theorem nextItem_close (first : Bool) (r : List Char) : nextItem first (']' :: r) = .ok (.close r) := by
  simp [nextItem, skipBlanks_cons (show isBlank ']' = false by decide)]

theorem nextName_close (first : Bool) (r : List Char) : nextName first ('}' :: r) = .ok (.close r) := by
  simp [nextName, skipBlanks_cons (show isBlank '}' = false by decide)]

theorem nextItem_first {cs r : List Char} {c : Char} (h : skipBlanks cs = c :: r) (hc : c ≠ ']') :
    nextItem true cs = .ok (.more (skipBlanks cs)) := by
  unfold nextItem
  rw [h]
  split
  · rename_i heq; cases heq
  · rename_i heq; exact absurd (List.cons.inj heq).1 hc
  · rename_i heq
    cases heq
    rfl

theorem nextItem_comma {cs r : List Char} {c : Char} (h : skipBlanks cs = c :: r) (hc : c ≠ ']') :
    nextItem false (',' :: cs) = .ok (.more (skipBlanks cs)) := by
  unfold nextItem
  rw [skipBlanks_cons (by decide)]
  split
  · rename_i heq; cases heq
  · rename_i heq; exact absurd (List.cons.inj heq).1 (by decide)
  · rename_i heq
    cases heq
    rw [if_neg Bool.false_ne_true, if_pos rfl, h]
    split
    · rename_i heq; cases heq
    · rename_i heq; exact absurd (List.cons.inj heq).1 hc
    · rfl

theorem nextName_first {cs r : List Char} (h : skipBlanks cs = '"' :: r) : nextName true cs = .ok (.more r) := by
  simp [nextName, h]

theorem nextName_comma {cs r : List Char} (h : skipBlanks cs = '"' :: r) :
    nextName false (',' :: cs) = .ok (.more r) := by
  simp [nextName, h, skipBlanks_cons (show isBlank ',' = false by decide)]

/-! ## What is spelled is read -/

/-- the reader reads the part from the text and stops, whatever follows -/
def Reads (n : Nat) (t : List Char) : Part → Prop
  | .value v => ∀ r, Ends r → value n (t ++ r) = .ok (v, r)
  | .items first vs => ∀ bound r, t.length ≤ bound.length → items (value n) bound first (t ++ r) = .ok (vs, r)
  | .member k v => ∀ r, Ends r →
      ∃ u w, skipBlanks (t ++ r) = '"' :: u ∧ name u = .ok (k, w) ∧ value n w = .ok (v, r)
  | .members first ms => ∀ bound r, t.length ≤ bound.length → members (value n) bound first (t ++ r) = .ok (ms, r)

theorem colon_blanks {ws : List Char} (hws : ∀ c ∈ ws, isBlank c = true) (r : List Char) :
    colon (ws ++ ':' :: r) = .ok r := by
  rw [colon, skipBlanks_append hws, skipBlanks_cons (by decide)]
  rfl

theorem name_of_body {t ws k : List Char} (hk : Body t k) (hws : ∀ c ∈ ws, isBlank c = true) (r : List Char) :
    name (t ++ '"' :: (ws ++ ':' :: r)) = .ok (String.ofList k, r) := by
  have hbody := stringBody_of_body (r := ws ++ ':' :: r) hk
  simp only [name, hbody]
  show (colon (ws ++ ':' :: r) >>= _) = _
  rw [colon_blanks hws]
  rfl

theorem items_close {α : Type} {one : List Char → Except Stop (α × List Char)} {bound cs r : List Char} {first : Bool}
    (hb : bound ≠ []) (h : nextItem first cs = .ok (.close r)) : items one bound first cs = .ok ([], r) := by
  obtain ⟨b, bound, rfl⟩ := List.exists_cons_of_ne_nil hb
  simp only [items, h]
  rfl

theorem items_more {α : Type} {one : List Char → Except Stop (α × List Char)} {b : Char} {bound cs u w r : List Char}
    {first : Bool} {v : α} {vs : List α} (h : nextItem first cs = .ok (.more u)) (hv : one u = .ok (v, w))
    (hvs : items one bound false w = .ok (vs, r)) : items one (b :: bound) first cs = .ok (v :: vs, r) := by
  simp only [items, h]
  show (one u >>= _) = _
  rw [hv]
  show (items one bound false w >>= _) = _
  rw [hvs]
  rfl

theorem members_close {one : List Char → Except Stop (Json × List Char)} {bound cs r : List Char} {first : Bool}
    (hb : bound ≠ []) (h : nextName first cs = .ok (.close r)) : members one bound first cs = .ok ([], r) := by
  obtain ⟨b, bound, rfl⟩ := List.exists_cons_of_ne_nil hb
  simp only [members, h]
  rfl

theorem members_more {one : List Char → Except Stop (Json × List Char)} {b : Char} {bound cs u w w' r : List Char}
    {first : Bool} {k : String} {v : Json} {ms : List (String × Json)} (h : nextName first cs = .ok (.more u))
    (hk : name u = .ok (k, w)) (hv : one w = .ok (v, w')) (hms : members one bound false w' = .ok (ms, r)) :
    members one (b :: bound) first cs = .ok ((k, v) :: ms, r) := by
  simp only [members, h]
  show (name u >>= _) = _
  rw [hk]
  show (one w >>= _) = _
  rw [hv]
  show (members one bound false w' >>= _) = _
  rw [hms]
  rfl

/-- a bound that is longer than two stretches of text leaves one that is longer than the second -/
theorem exists_bound {t u bound : List Char} (ht : 0 < t.length) (h : (t ++ u).length ≤ bound.length) :
    ∃ b bound', bound = b :: bound' ∧ u.length ≤ bound'.length := by
  rw [List.length_append] at h
  cases bound with
  | nil =>
    rw [List.length_nil] at h
    omega
  | cons b bound' =>
    rw [List.length_cons] at h
    exact ⟨b, bound', rfl, by omega⟩

theorem Reads.blank {n : Nat} {c : Char} {t : List Char} {p : Part} (hc : isBlank c = true) (h : Reads n t p) :
    Reads n (c :: t) p := by
  cases p with
  | value v => exact fun r hr => (value_blank n hc _).trans (h r hr)
  | items first vs =>
    intro bound r hb
    obtain ⟨b, bound', rfl, -⟩ := exists_bound (t := [c]) Nat.one_pos hb
    rw [← h (b :: bound') r (Nat.le_of_succ_le hb), List.cons_append]
    simp only [items, nextItem_blank first hc]
  | member k v =>
    intro r hr
    rw [List.cons_append, skipBlanks_blank hc]
    exact h r hr
  | members first ms =>
    intro bound r hb
    obtain ⟨b, bound', rfl, -⟩ := exists_bound (t := [c]) Nat.one_pos hb
    rw [← h (b :: bound') r (Nat.le_of_succ_le hb), List.cons_append]
    simp only [members, nextName_blank first hc]

/-- the reader tells a number without a sign by its first digit -/
theorem value_positive {n : Nat} {t : List Char} {x : Number} (h : Numeral true t x) :
    Reads n t (.value (.number x)) := by
  intro r hr
  obtain ⟨c, w, rfl, hd, hb⟩ := h.begins
  have hx := h.takes r hr
  rw [List.cons_append] at hx ⊢
  rw [value, skipBlanks_cons hb]
  have hn : c ≠ 'n' := ne_of_isDigit hd (by decide)
  have ht : c ≠ 't' := ne_of_isDigit hd (by decide)
  have hf : c ≠ 'f' := ne_of_isDigit hd (by decide)
  have hm : c ≠ '-' := ne_of_isDigit hd (by decide)
  simp only [if_neg hn, if_neg ht, if_neg hf, if_neg hm, hd, if_true, hx]
  rfl

/-- **What the grammar spells is read.** -/
theorem reads_of_spells {n : Nat} {t : List Char} {p : Part} (h : Spells n t p) : Reads n t p := by
  induction h with
  | blank hc _ ih => exact ih.blank hc
  | null | yes | no =>
    intro r _
    rw [List.cons_append, value, skipBlanks_cons (by decide)]
    simp only [Char.reduceEq, if_false, if_true]
    rfl
  | positive hx => exact value_positive hx
  | @negative n t x hx =>
    intro r hr
    have hn := hx.takes r hr
    rw [List.cons_append, value, skipBlanks_cons (by decide)]
    simp only [Char.reduceEq, if_false, if_true, hn]
    rfl
  | @string n t s hs =>
    intro r _
    rw [List.cons_append, List.append_assoc, List.singleton_append, value_quote, stringBody_of_body hs, Except.map]
  | @array n t vs _ ih =>
    intro r _
    have hvs := ih ('[' :: (t ++ r)) r (by rw [List.length_cons, List.length_append]; omega)
    rw [List.cons_append, value, skipBlanks_cons (by decide)]
    simp only [Char.reduceEq, Char.reduceIsDigit, Bool.false_eq_true, if_false, if_true, hvs]
    rfl
  | @object n t ms _ ih =>
    intro r _
    have hms := ih ('{' :: (t ++ r)) r (by rw [List.length_cons, List.length_append]; omega)
    rw [List.cons_append, value, skipBlanks_cons (by decide)]
    simp only [Char.reduceEq, Char.reduceIsDigit, Bool.false_eq_true, if_false, if_true, hms]
    rfl
  | noItem =>
    intro bound r hb
    exact items_close (List.ne_nil_of_length_pos hb) (nextItem_close _ r)
  | noMember =>
    intro bound r hb
    exact members_close (List.ne_nil_of_length_pos hb) (nextName_close _ r)
  | @firstItem n t u v vs ht hu ihv ihvs =>
    intro bound r hb
    obtain ⟨c, w, hw, hc⟩ := ht.begins
    have hv := ihv (u ++ r) (hu.ends (fun _ => isNumeralChar_of_begins_items) r)
    rw [← value_skipBlanks] at hv
    rw [List.append_assoc]
    obtain ⟨b, bound', rfl, hb'⟩ := exists_bound ht.length_pos hb
    exact items_more (nextItem_first (hw (u ++ r)) hc) hv (ihvs bound' r hb')
  | @nextItem n t u v vs ht hu ihv ihvs =>
    intro bound r hb
    obtain ⟨c, w, hw, hc⟩ := ht.begins
    have hv := ihv (u ++ r) (hu.ends (fun _ => isNumeralChar_of_begins_items) r)
    rw [← value_skipBlanks] at hv
    rw [List.cons_append, List.append_assoc]
    obtain ⟨b, bound', rfl, hb'⟩ := exists_bound (t := ',' :: t) (Nat.succ_pos _) hb
    exact items_more (nextItem_comma (hw (u ++ r)) hc) hv (ihvs bound' r hb')
  | @member n t ws u k v hk hws hu ih =>
    intro r hr
    refine ⟨t ++ '"' :: (ws ++ ':' :: (u ++ r)), u ++ r, ?_, name_of_body hk hws (u ++ r), ih r hr⟩
    rw [List.cons_append, skipBlanks_cons (by decide)]
    simp
  | @firstMember n t u k v ms ht hu ihm ihms =>
    intro bound r hb
    obtain ⟨a, w, ha, hk, hv⟩ := ihm (u ++ r) (hu.ends (fun _ => isNumeralChar_of_begins_members) r)
    rw [List.append_assoc]
    obtain ⟨b, bound', rfl, hb'⟩ := exists_bound ht.length_pos hb
    exact members_more (nextName_first ha) hk hv (ihms bound' r hb')
  | @nextMember n t u k v ms ht hu ihm ihms =>
    intro bound r hb
    obtain ⟨a, w, ha, hk, hv⟩ := ihm (u ++ r) (hu.ends (fun _ => isNumeralChar_of_begins_members) r)
    rw [List.cons_append, List.append_assoc]
    obtain ⟨b, bound', rfl, hb'⟩ := exists_bound (t := ',' :: t) (Nat.succ_pos _) hb
    exact members_more (nextName_comma ha) hk hv (ihms bound' r hb')

/-! ## What is read is spelled -/

/-- the blanks in front of a character that the reader looks at -/
theorem eq_blanks_append {cs r : List Char} {c : Char} (h : skipBlanks cs = c :: r) :
    ∃ ws, (∀ x ∈ ws, isBlank x = true) ∧ cs = ws ++ c :: r := by
  obtain ⟨ws, hws, hcs⟩ := exists_blanks cs
  exact ⟨ws, hws, h ▸ hcs⟩

theorem of_nextItem_close {first : Bool} {cs r : List Char} (h : nextItem first cs = .ok (.close r)) :
    ∃ ws, (∀ x ∈ ws, isBlank x = true) ∧ cs = ws ++ ']' :: r := by
  unfold nextItem at h
  split at h
  · simp at h
  · rename_i hs
    cases h
    exact eq_blanks_append hs
  · split_ifs at h
    · cases h
    · split at h <;> simp at h
    · simp at h

theorem of_nextItem_more {first : Bool} {cs u : List Char} (h : nextItem first cs = .ok (.more u)) :
    (first = true ∧ ∃ ws, (∀ x ∈ ws, isBlank x = true) ∧ cs = ws ++ u) ∨
      (first = false ∧ ∃ ws ws', (∀ x ∈ ws, isBlank x = true) ∧ (∀ x ∈ ws', isBlank x = true) ∧
        cs = ws ++ ',' :: (ws' ++ u)) := by
  unfold nextItem at h
  split at h
  · simp at h
  · cases h
  · rename_i c r _ hs
    obtain ⟨ws, hws, rfl⟩ := eq_blanks_append hs
    split_ifs at h with hf hc
    · cases h
      exact .inl ⟨hf, ws, hws, rfl⟩
    · subst hc
      obtain ⟨ws', hws', hr⟩ := exists_blanks r
      split at h
      · simp at h
      · simp at h
      · cases h
        refine .inr ⟨by simpa using hf, ws, ws', hws, hws', ?_⟩
        rw [← hr]
    · simp at h

theorem of_nextName_close {first : Bool} {cs r : List Char} (h : nextName first cs = .ok (.close r)) :
    ∃ ws, (∀ x ∈ ws, isBlank x = true) ∧ cs = ws ++ '}' :: r := by
  unfold nextName at h
  split at h
  · simp at h
  · rename_i hs
    cases h
    exact eq_blanks_append hs
  · split_ifs at h
    · cases h
    · simp at h
    · split at h <;> simp at h
    · simp at h

theorem of_nextName_more {first : Bool} {cs u : List Char} (h : nextName first cs = .ok (.more u)) :
    (first = true ∧ ∃ ws, (∀ x ∈ ws, isBlank x = true) ∧ cs = ws ++ '"' :: u) ∨
      (first = false ∧ ∃ ws ws', (∀ x ∈ ws, isBlank x = true) ∧ (∀ x ∈ ws', isBlank x = true) ∧
        cs = ws ++ ',' :: (ws' ++ '"' :: u)) := by
  unfold nextName at h
  split at h
  · simp at h
  · cases h
  · rename_i c r _ hs
    obtain ⟨ws, hws, rfl⟩ := eq_blanks_append hs
    split_ifs at h with hf hq hc
    · cases h
      exact .inl ⟨hf, ws, hws, by rw [hq]⟩
    · simp at h
    · subst hc
      split at h
      · simp at h
      · rename_i hs'
        obtain ⟨ws', hws', rfl⟩ := eq_blanks_append hs'
        cases h
        exact .inr ⟨by simpa using hf, ws, ws', hws, hws', rfl⟩
      · simp at h
      · simp at h
    · simp at h

theorem of_name {cs r : List Char} {k : String} (h : name cs = .ok (k, r)) :
    ∃ t s ws, Body t s ∧ (∀ x ∈ ws, isBlank x = true) ∧ k = String.ofList s ∧ cs = t ++ '"' :: (ws ++ ':' :: r) := by
  obtain ⟨⟨s, u⟩, hs, h⟩ := ok_of_bind h
  obtain ⟨w, hw, h⟩ := ok_of_bind h
  cases h
  obtain ⟨t, ht, rfl⟩ := body_of_stringBody hs
  unfold colon at hw
  split at hw
  · simp at hw
  · rename_i hc
    cases hw
    obtain ⟨ws, hws, rfl⟩ := eq_blanks_append hc
    exact ⟨t, s, ws, ht, hws, rfl, rfl⟩
  · simp at hw

/-- whatever a reader of values reads is spelled -/
def Sound (n : Nat) (one : List Char → Except Stop (Json × List Char)) : Prop :=
  ∀ {cs v r}, one cs = .ok (v, r) → ∃ t, cs = t ++ r ∧ Spells n t (.value v)

theorem spells_of_items {n : Nat} {one : List Char → Except Stop (Json × List Char)} (hone : Sound n one)
    {bound cs r : List Char} {first : Bool} {vs : List Json} (h : items one bound first cs = .ok (vs, r)) :
    ∃ t, cs = t ++ r ∧ Spells n t (.items first vs) := by
  induction bound generalizing first cs vs r with
  | nil => simp [items] at h
  | cons b bound ih =>
    obtain ⟨next, hnext, h⟩ := ok_of_bind h
    cases next with
    | close r' =>
      cases h
      obtain ⟨ws, hws, rfl⟩ := of_nextItem_close hnext
      exact ⟨ws ++ [']'], by simp, Spells.noItem.blanks hws⟩
    | more u =>
      obtain ⟨⟨v, w⟩, hv, h⟩ := ok_of_bind h
      obtain ⟨⟨vs', r'⟩, hvs, h⟩ := ok_of_bind h
      cases h
      obtain ⟨t, rfl, ht⟩ := hone hv
      obtain ⟨t', rfl, ht'⟩ := ih hvs
      rcases of_nextItem_more hnext with ⟨rfl, ws, hws, rfl⟩ | ⟨rfl, ws, ws', hws, hws', rfl⟩
      · exact ⟨(ws ++ t) ++ t', by simp, Spells.firstItem (ht.blanks hws) ht'⟩
      · exact ⟨ws ++ ',' :: ((ws' ++ t) ++ t'), by simp, (Spells.nextItem (ht.blanks hws') ht').blanks hws⟩

theorem spells_of_members {n : Nat} {one : List Char → Except Stop (Json × List Char)} (hone : Sound n one)
    {bound cs r : List Char} {first : Bool} {ms : List (String × Json)}
    (h : members one bound first cs = .ok (ms, r)) : ∃ t, cs = t ++ r ∧ Spells n t (.members first ms) := by
  induction bound generalizing first cs ms r with
  | nil => simp [members] at h
  | cons b bound ih =>
    obtain ⟨next, hnext, h⟩ := ok_of_bind h
    cases next with
    | close r' =>
      cases h
      obtain ⟨ws, hws, rfl⟩ := of_nextName_close hnext
      exact ⟨ws ++ ['}'], by simp, Spells.noMember.blanks hws⟩
    | more u =>
      obtain ⟨⟨k, w⟩, hk, h⟩ := ok_of_bind h
      obtain ⟨⟨v, w'⟩, hv, h⟩ := ok_of_bind h
      obtain ⟨⟨ms', r'⟩, hms, h⟩ := ok_of_bind h
      cases h
      obtain ⟨t, s, wc, hs, hwc, rfl, rfl⟩ := of_name hk
      obtain ⟨tv, rfl, htv⟩ := hone hv
      obtain ⟨t', rfl, ht'⟩ := ih hms
      have hm := Spells.member hs hwc htv
      rcases of_nextName_more hnext with ⟨rfl, ws, hws, rfl⟩ | ⟨rfl, ws, ws', hws, hws', rfl⟩
      · exact ⟨_, by simp, Spells.firstMember (hm.blanks hws) ht'⟩
      · exact ⟨_, by simp, (Spells.nextMember (hm.blanks hws') ht').blanks hws⟩

/-- a level of the reader is sound when the next one is -/
theorem sound_of_deeper {n : Nat} (hdeeper : ∀ m, n = m + 1 → Sound m (value m)) : Sound n (value n) := by
  intro cs v r h
  cases hs : skipBlanks cs with
  | nil =>
    rw [value.eq_def, hs] at h
    simp at h
  | cons c u =>
    obtain ⟨ws, hws, rfl⟩ := eq_blanks_append hs
    suffices hc : ∃ t, c :: u = t ++ r ∧ Spells n t (.value v) by
      obtain ⟨t, ht, hsp⟩ := hc
      exact ⟨ws ++ t, by rw [ht, List.append_assoc], hsp.blanks hws⟩
    rw [value.eq_def, hs] at h
    dsimp only at h
    split_ifs at h with hn ht hf hm hd hq ha ho
    · subst hn
      obtain ⟨r', hw, h⟩ := ok_of_bind h
      cases h
      exact ⟨_, by rw [eq_append_of_word hw]; rfl, Spells.null⟩
    · subst ht
      obtain ⟨r', hw, h⟩ := ok_of_bind h
      cases h
      exact ⟨_, by rw [eq_append_of_word hw]; rfl, Spells.yes⟩
    · subst hf
      obtain ⟨r', hw, h⟩ := ok_of_bind h
      cases h
      exact ⟨_, by rw [eq_append_of_word hw]; rfl, Spells.no⟩
    · subst hm
      obtain ⟨⟨x, r'⟩, hx, h⟩ := ok_of_bind h
      cases h
      obtain ⟨t, rfl, ht⟩ := numeral_of_number hx
      exact ⟨_, rfl, Spells.negative ht⟩
    · obtain ⟨⟨x, r'⟩, hx, h⟩ := ok_of_bind h
      cases h
      obtain ⟨t, heq, ht⟩ := numeral_of_number hx
      exact ⟨t, heq, Spells.positive ht⟩
    · subst hq
      obtain ⟨⟨s, r'⟩, hb, h⟩ := ok_of_bind h
      cases h
      obtain ⟨t, ht, rfl⟩ := body_of_stringBody hb
      exact ⟨_, by simp, Spells.string ht⟩
    · subst ha
      cases n with
      | zero => simp at h
      | succ m =>
        obtain ⟨⟨vs, r'⟩, hvs, h⟩ := ok_of_bind h
        cases h
        obtain ⟨t, rfl, ht⟩ := spells_of_items (hdeeper m rfl) hvs
        exact ⟨_, rfl, Spells.array ht⟩
    · subst ho
      cases n with
      | zero => simp at h
      | succ m =>
        obtain ⟨⟨ms, r'⟩, hms, h⟩ := ok_of_bind h
        cases h
        obtain ⟨t, rfl, ht⟩ := spells_of_members (hdeeper m rfl) hms
        exact ⟨_, rfl, Spells.object ht⟩
    · simp at h

/-- **What is read is spelled.** By induction on the levels that the reader may still open. -/
theorem spells_of_value (n : Nat) : Sound n (value n) := by
  induction n with
  | zero => exact sound_of_deeper fun m e => by cases e
  | succ n ih => exact sound_of_deeper fun m e => Nat.succ.inj e ▸ ih

/-- **The reader and the grammar agree.** A text parses as a value exactly when it spells it and ends in blanks. -/
theorem parse_eq_ok_iff {text : String} {v : Json} :
    parse text = .ok v ↔
      ∃ t ws, text.toList = t ++ ws ∧ Spells maxLevels t (.value v) ∧ ∀ c ∈ ws, isBlank c = true := by
  have hdoc : parse text = .ok v ↔ document text.toList = .ok v := by
    unfold parse
    cases document text.toList with
    | ok w => simp
    | error e => simp
  rw [hdoc]
  constructor
  · intro h
    obtain ⟨⟨w, r⟩, hw, h⟩ := ok_of_bind h
    obtain ⟨⟨⟩, hr, h⟩ := ok_of_bind h
    cases h
    obtain ⟨t, ht, hs⟩ := spells_of_value maxLevels hw
    obtain ⟨ws, hws, hrest⟩ := exists_blanks r
    unfold atEnd at hr
    split at hr
    · rename_i hnil
      rw [hnil, List.append_nil] at hrest
      exact ⟨t, r, ht, hs, hrest ▸ hws⟩
    · simp at hr
  · rintro ⟨t, ws, ht, hs, hws⟩
    have hskip : skipBlanks ws = [] := List.dropWhile_eq_nil_iff.2 hws
    have hv := reads_of_spells hs ws (ends_of_blanks hws)
    rw [document, ht, hv]
    show (atEnd ws >>= _) = _
    rw [atEnd, hskip]
    rfl

end CommentDigest.Json
