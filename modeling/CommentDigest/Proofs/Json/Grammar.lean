/-
The grammar of JSON text.

`Spells n t p` says that the text `t` spells a part `p` of a document: a value that opens at most `n` levels, a member
of an object, or what stands behind an opening bracket or brace up to and with the closing one. Blanks may stand in front
of every part. The grammar says nothing about reading.

- `Spells.begins`: the first character of a part that is no blank tells the kinds of parts apart
- `Spells.ends`: no number goes on with the rest of an array or object
-/
import CommentDigest.Json.Reader
import CommentDigest.Proofs.Json.Numeral

namespace CommentDigest.Json

open Read

/-! ## Spelling -/

/-- a part of a document; of the rest of an array or object, whether its first entry is still to come -/
inductive Part where
  | value (v : Json)
  | items (first : Bool) (vs : List Json)
  | member (k : String) (v : Json)
  | members (first : Bool) (ms : List (String × Json))

/-- the text spells the part, and its values open at most that many levels -/
inductive Spells : (levels : Nat) → List Char → Part → Prop
  | blank {n : Nat} {c : Char} {t : List Char} {p : Part} : isBlank c = true → Spells n t p → Spells n (c :: t) p
  | null {n : Nat} : Spells n ['n', 'u', 'l', 'l'] (.value .null)
  | yes {n : Nat} : Spells n ['t', 'r', 'u', 'e'] (.value (.bool true))
  | no {n : Nat} : Spells n ['f', 'a', 'l', 's', 'e'] (.value (.bool false))
  | positive {n : Nat} {t : List Char} {x : Number} : Numeral true t x → Spells n t (.value (.number x))
  | negative {n : Nat} {t : List Char} {x : Number} : Numeral false t x → Spells n ('-' :: t) (.value (.number x))
  | string {n : Nat} {t s : List Char} : Body t s → Spells n ('"' :: (t ++ ['"'])) (.value (.string (String.ofList s)))
  | array {n : Nat} {t : List Char} {vs : List Json} : Spells n t (.items true vs) →
      Spells (n + 1) ('[' :: t) (.value (.array vs))
  | object {n : Nat} {t : List Char} {ms : List (String × Json)} : Spells n t (.members true ms) →
      Spells (n + 1) ('{' :: t) (.value (.object (Members.ofList ms)))
  | noItem {n : Nat} {first : Bool} : Spells n [']'] (.items first [])
  | firstItem {n : Nat} {t u : List Char} {v : Json} {vs : List Json} : Spells n t (.value v) →
      Spells n u (.items false vs) → Spells n (t ++ u) (.items true (v :: vs))
  | nextItem {n : Nat} {t u : List Char} {v : Json} {vs : List Json} : Spells n t (.value v) →
      Spells n u (.items false vs) → Spells n (',' :: (t ++ u)) (.items false (v :: vs))
  | member {n : Nat} {t ws u : List Char} {k : List Char} {v : Json} : Body t k → (∀ c ∈ ws, isBlank c = true) →
      Spells n u (.value v) → Spells n ('"' :: (t ++ '"' :: (ws ++ ':' :: u))) (.member (String.ofList k) v)
  | noMember {n : Nat} {first : Bool} : Spells n ['}'] (.members first [])
  | firstMember {n : Nat} {t u : List Char} {k : String} {v : Json} {ms : List (String × Json)} :
      Spells n t (.member k v) → Spells n u (.members false ms) → Spells n (t ++ u) (.members true ((k, v) :: ms))
  | nextMember {n : Nat} {t u : List Char} {k : String} {v : Json} {ms : List (String × Json)} :
      Spells n t (.member k v) → Spells n u (.members false ms) →
      Spells n (',' :: (t ++ u)) (.members false ((k, v) :: ms))

theorem Spells.blanks {n : Nat} {ws t : List Char} {p : Part} (hws : ∀ c ∈ ws, isBlank c = true) (h : Spells n t p) :
    Spells n (ws ++ t) p := by
  induction ws with
  | nil => exact h
  | cons c ws ih =>
    exact Spells.blank (hws c List.mem_cons_self) (ih fun x hx => hws x (List.mem_cons_of_mem c hx))

/-! ## Blanks -/

theorem skipBlanks_blank {c : Char} (h : isBlank c = true) (cs : List Char) : skipBlanks (c :: cs) = skipBlanks cs := by
  simp [skipBlanks, h]

theorem skipBlanks_cons {c : Char} (h : isBlank c = false) (cs : List Char) : skipBlanks (c :: cs) = c :: cs := by
  simp [skipBlanks, h]

theorem skipBlanks_append {ws : List Char} (h : ∀ c ∈ ws, isBlank c = true) (cs : List Char) :
    skipBlanks (ws ++ cs) = skipBlanks cs := List.dropWhile_append_of_pos h

theorem exists_blanks (cs : List Char) : ∃ ws, (∀ c ∈ ws, isBlank c = true) ∧ cs = ws ++ skipBlanks cs :=
  ⟨cs.takeWhile isBlank, fun _ hc => List.mem_takeWhile_imp hc, List.takeWhile_append_dropWhile.symm⟩

theorem isBlank_of_skipBlanks {cs r : List Char} {c : Char} (h : skipBlanks cs = c :: r) : isBlank c = false := by
  have hn := List.head?_dropWhile_not isBlank cs
  rw [show cs.dropWhile isBlank = c :: r from h] at hn
  simpa using hn

theorem skipBlanks_skipBlanks (cs : List Char) : skipBlanks (skipBlanks cs) = skipBlanks cs := by
  cases h : skipBlanks cs with
  | nil => rfl
  | cons c r => exact skipBlanks_cons (isBlank_of_skipBlanks h) r

/-! ## Where a part begins -/

/-- how the text of a part may begin behind its blanks -/
def Part.Begins : Part → Char → Prop
  | .value _, c => c ≠ ']'
  | .items first _, c => first = false → c = ']' ∨ c = ','
  | .member _ _, c => c = '"'
  | .members first _, c => c = '}' ∨ c = if first then '"' else ','

theorem not_isBlank_of_isDigit {c : Char} (h : c.isDigit = true) : isBlank c = false := by
  rw [← Bool.not_eq_true]
  intro hb
  simp only [isBlank, Bool.or_eq_true, decide_eq_true_eq] at hb
  rcases hb with ((rfl | rfl) | rfl) | rfl <;> exact absurd h (by decide)

theorem Numeral.begins {positive : Bool} {t : List Char} {x : Number} (h : Numeral positive t x) :
    ∃ c w, t = c :: w ∧ c.isDigit = true ∧ isBlank c = false := by
  obtain ⟨c, w, rfl, hc⟩ := h.first
  exact ⟨c, w, rfl, hc, not_isBlank_of_isDigit hc⟩

theorem Spells.begins {n : Nat} {t : List Char} {p : Part} (h : Spells n t p) :
    ∃ c w, (∀ r, skipBlanks (t ++ r) = c :: (w ++ r)) ∧ p.Begins c := by
  have hplain : ∀ {t : List Char} {p : Part} (c : Char) (w : List Char), t = c :: w → isBlank c = false → p.Begins c →
      ∃ c w, (∀ r, skipBlanks (t ++ r) = c :: (w ++ r)) ∧ p.Begins c := by
    rintro t p c w rfl hc hp
    exact ⟨c, w, fun r => skipBlanks_cons hc (w ++ r), hp⟩
  induction h with
  | blank hc _ ih =>
    obtain ⟨c, w, hw, hp⟩ := ih
    exact ⟨c, w, fun r => (skipBlanks_blank hc _).trans (hw r), hp⟩
  | positive hx =>
    obtain ⟨c, w, hw, hd, hb⟩ := hx.begins
    exact hplain c w hw hb fun e => absurd hd (by rw [e]; decide)
  | firstItem _ _ ih _ =>
    obtain ⟨c, w, hw, -⟩ := ih
    exact ⟨c, w ++ _, fun r => by rw [List.append_assoc, hw, List.append_assoc], fun e => by cases e⟩
  | firstMember _ _ ih _ =>
    obtain ⟨c, w, hw, hc⟩ := ih
    exact ⟨c, w ++ _, fun r => by rw [List.append_assoc, hw, List.append_assoc], .inr hc⟩
  | noItem => exact hplain _ _ rfl (by decide) fun _ => .inl rfl
  | nextItem => exact hplain _ _ rfl (by decide) fun _ => .inr rfl
  | noMember => exact hplain _ _ rfl (by decide) (.inl rfl)
  | nextMember => exact hplain _ _ rfl (by decide) (.inr rfl)
  | member => exact hplain _ _ rfl (by decide) rfl
  | _ => exact hplain _ _ rfl (by decide) (by simp [Part.Begins])

theorem Spells.length_pos {n : Nat} {t : List Char} {p : Part} (h : Spells n t p) : 0 < t.length := by
  cases t with
  | cons c t => exact Nat.succ_pos _
  | nil =>
    -- an empty text would begin with a character in front of nothing
    obtain ⟨c, w, hw, -⟩ := h.begins
    cases hw []

theorem isNumeralChar_of_isBlank {c : Char} (h : isBlank c = true) : isNumeralChar c = false := by
  simp only [isBlank, Bool.or_eq_true, decide_eq_true_eq] at h
  rcases h with ((rfl | rfl) | rfl) | rfl <;> decide

theorem ends_of_head {cs : List Char} (h : ∀ x ∈ cs.head?, isNumeralChar x = false) : Ends cs := by
  refine ⟨fun x hx => ?_, fun e => ?_, fun e => ?_, fun e => ?_⟩
  · have hd := h x hx
    simp only [isNumeralChar, Bool.or_eq_false_iff] at hd
    exact hd.1.1.1.1.1
  all_goals exact absurd (h _ (Option.mem_def.2 e)) (by decide)

theorem ends_of_skipBlanks {cs r : List Char} {c : Char} (h : skipBlanks cs = c :: r) (hc : isNumeralChar c = false) :
    Ends cs := by
  apply ends_of_head
  intro x hx
  obtain ⟨cs', rfl⟩ := List.head?_eq_some_iff.1 (Option.mem_def.1 hx)
  by_cases hb : isBlank x = true
  · exact isNumeralChar_of_isBlank hb
  · rw [skipBlanks_cons (by simpa using hb)] at h
    rw [(List.cons.inj h).1]
    exact hc

theorem ends_of_blanks {ws : List Char} (h : ∀ c ∈ ws, isBlank c = true) : Ends ws :=
  ends_of_head fun x hx => isNumeralChar_of_isBlank (h x (List.mem_of_mem_head? hx))

/-- no number goes on with the rest of an array or object -/
theorem Spells.ends {n : Nat} {t : List Char} {p : Part} (h : Spells n t p)
    (hp : ∀ c, p.Begins c → isNumeralChar c = false) (r : List Char) : Ends (t ++ r) := by
  obtain ⟨c, w, hw, hc⟩ := h.begins
  exact ends_of_skipBlanks (hw r) (hp c hc)

theorem isNumeralChar_of_begins_items {vs : List Json} {c : Char} (h : (Part.items false vs).Begins c) :
    isNumeralChar c = false := by
  rcases h rfl with rfl | rfl <;> decide

theorem isNumeralChar_of_begins_members {ms : List (String × Json)} {c : Char} (h : (Part.members false ms).Begins c) :
    isNumeralChar c = false := by
  rcases h with rfl | rfl <;> decide

end CommentDigest.Json
