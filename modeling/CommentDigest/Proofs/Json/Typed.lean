/-
Where a value of a known type belongs, each of its spellings is read as the value.

- `text_of_spells`, `optionalText_of_spells`, `integer_of_spells`: scalars
- `list_of_itemTexts`: arrays, item by item
-/
import CommentDigest.Json.Typed
import CommentDigest.Proofs.Json.Layout

namespace CommentDigest.Json

open Read

/-! ## Blanks -/

theorem text_passesBlanks (expected : String) : PassesBlanks (Read.text expected) := by
  intro cs
  unfold Read.text
  rw [skipBlanks_skipBlanks]

theorem optionalText_passesBlanks (expected : String) : PassesBlanks (Read.optionalText expected) := by
  intro cs
  unfold Read.optionalText
  rw [skipBlanks_skipBlanks]

theorem integer_passesBlanks (range : IntRange) : PassesBlanks (Read.integer range) := by
  intro cs
  unfold Read.integer
  rw [skipBlanks_skipBlanks]

theorem list_passesBlanks {α : Type} (one : List Char → Except Stop (α × List Char)) : PassesBlanks (Read.list one) := by
  intro cs
  unfold Read.list
  rw [skipBlanks_skipBlanks]

/-! ## Scalars -/

section

variable {n : Nat} {t : List Char}

theorem text_of_spells (expected : String) {s : String} (h : Spells n t (.value (.string s))) :
    ReadsAs (Read.text expected) t s := by
  generalize hp : Part.value (.string s) = p at h
  induction h with
  | blank hc _ ih => exact (ih hp).blanks (text_passesBlanks expected) (blanks_nil.cons hc)
  | string hb =>
    cases hp
    intro r _
    have hbody := stringBody_of_body (r := r) hb
    rw [List.cons_append, List.append_assoc, List.singleton_append, Read.text, skipBlanks_cons (by decide)]
    simp only [hbody]
    rfl
  | _ => cases hp

theorem optionalText_of_null (expected : String) (h : Spells n t (.value .null)) :
    ReadsAs (Read.optionalText expected) t none := by
  generalize hp : Part.value .null = p at h
  induction h with
  | blank hc _ ih => exact (ih hp).blanks (optionalText_passesBlanks expected) (blanks_nil.cons hc)
  | null =>
    intro r _
    rw [List.cons_append, Read.optionalText, skipBlanks_cons (by decide)]
    rfl
  | _ => cases hp

theorem optionalText_of_string (expected : String) {s : String} (h : Spells n t (.value (.string s))) :
    ReadsAs (Read.optionalText expected) t (some s) := by
  generalize hp : Part.value (.string s) = p at h
  induction h with
  | blank hc _ ih => exact (ih hp).blanks (optionalText_passesBlanks expected) (blanks_nil.cons hc)
  | string hb =>
    have htext := text_of_spells expected (hp ▸ Spells.string (n := n) hb)
    intro r hr
    have hread := htext r hr
    rw [List.cons_append] at hread ⊢
    rw [Read.optionalText, skipBlanks_cons (by decide)]
    show (Read.text expected _ >>= _) = _
    rw [hread]
    rfl
  | _ => cases hp

theorem integer_of_spells {range : IntRange} {i : Int} (hrange : range.low ≤ i ∧ i ≤ range.high)
    (h : Spells n t (.value (.number (.int i)))) : ReadsAs (Read.integer range) t i := by
  have hof : range.of (.int i) = .ok i := by rw [IntRange.of, if_pos hrange]
  generalize hp : Part.value (.number (.int i)) = p at h
  induction h with
  | blank hc _ ih => exact (ih hp).blanks (integer_passesBlanks range) (blanks_nil.cons hc)
  | positive hx =>
    cases hp
    intro r hr
    obtain ⟨c, w, rfl, hd, hb⟩ := hx.begins
    have hminus : c ≠ '-' := ne_of_isDigit hd (by decide)
    have hnumber := hx.takes r hr
    rw [List.cons_append] at hnumber ⊢
    rw [Read.integer, skipBlanks_cons hb]
    simp only [if_neg hminus, hd, if_true, hnumber]
    show place r (range.of (.int i)) = _
    rw [hof]
    rfl
  | negative hx =>
    cases hp
    intro r hr
    have hnumber := hx.takes r hr
    rw [List.cons_append, Read.integer, skipBlanks_cons (by decide)]
    simp only [if_true, hnumber]
    show place r (range.of (.int i)) = _
    rw [hof]
    rfl
  | _ => cases hp

end

/-! ## Arrays -/

/-- an array is read item by item -/
theorem list_of_itemTexts {α : Type} {one : List Char → Except Stop (α × List Char)} (hone : PassesBlanks one)
    {ws t : List Char} {ts : List (List Char)} {as : List α} (hws : Blanks ws) (h : ItemTexts true t ts)
    (has : List.Forall₂ (ReadsAs one) ts as) : ReadsAs (Read.list one) (ws ++ '[' :: t) as := by
  intro r _
  have hbound : t.length ≤ ('[' :: (t ++ r)).length := by
    rw [List.length_cons, List.length_append]
    omega
  have hitems := items_of_itemTexts hone h has _ r hbound
  rw [List.append_assoc, Read.list, skipBlanks_append hws, List.cons_append, skipBlanks_cons (by decide)]
  exact hitems

end CommentDigest.Json
