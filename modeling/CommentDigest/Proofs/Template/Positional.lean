/-
Placeholders that ask for values by number.

Numbers count from one. A numbered placeholder asks for the number it is written with, however many digits it has; the
letter asks for one more than the letters in front of it, whatever else stands between them and whether or not there were
values for them. A value is there for the numbers up to the length of the list, and the fallback takes the place of any
other.

The numbers of placeholders are read into words, which is right for two reasons: none of them is zero, so one less is
still a word, and one that is too large for a word is too large for any list whose length is a word.

- `word?_eq_none_iff`, `toNat_of_word?`: a number read into a word, and the word less one
- `value?_index`, `value?_next`: the values that placeholders ask for
- `fill_by_number`: positional placeholders
-/
import CommentDigest.Proofs.Template.Occurrences
import CommentDigest.Proofs.Text.Digits

namespace CommentDigest.Template

open Digits (word? value)

/-! ## Numbers as words -/

section

variable {ds : List Char}

theorem value_pos_of_isIndex (h : isIndex ds = true) : 0 < value ds := by
  cases ds with
  | nil => cases h
  | cons c cs =>
    have hfirst := h
    simp only [isIndex, Bool.and_eq_true, decide_eq_true_eq] at hfirst
    exact Digits.value_pos hfirst.1.1 hfirst.1.2 cs

theorem word?_of_isIndex (h : isIndex ds = true) :
    word? ds = if value ds < twoTo 64 then some (UInt64.ofNat (value ds)) else none := by
  refine Digits.word?_digits ?_ (isDigit_of_isIndex h)
  rintro rfl
  cases h

theorem word?_eq_none_iff (h : isIndex ds = true) : word? ds = none ↔ twoTo 64 ≤ value ds := by
  rw [word?_of_isIndex h, ite_eq_right_iff, ← Nat.not_lt]
  refine ⟨fun hnone hlt => ?_, fun hnot hlt => absurd hlt hnot⟩
  cases hnone hlt

/-- the word is the number, and taking one away leaves the word that is one less -/
theorem toNat_of_word? (h : isIndex ds = true) {k : UInt64} (hk : word? ds = some k) :
    k.toNat = value ds ∧ 1 ≤ k ∧ (k - 1).toNat = value ds - 1 := by
  rw [word?_of_isIndex h, Option.ite_none_right_eq_some] at hk
  obtain ⟨hlt, hword⟩ := hk
  have hnat : k.toNat = value ds := by
    rw [← Option.some.inj hword]
    exact Digits.toNat_ofNat_of_lt hlt
  have hone : 1 ≤ k := by
    have hpos := value_pos_of_isIndex h
    rw [UInt64.le_iff_toNat_le, hnat]
    exact hpos
  refine ⟨hnat, hone, ?_⟩
  rw [UInt64.toNat_sub_of_le _ _ hone, hnat]
  rfl

end

/-! ## Values by number -/

section

variable {values : List String}

/-- a numbered placeholder asks for its number, if that is a word -/
theorem value?_index (values : List String) {ds : List Char} (h : isIndex ds = true) (taken : Nat) :
    (Values.positional values).value? taken (.index ds) =
      if value ds < twoTo 64 then values[value ds - 1]? else none := by
  rw [Values.value?]
  cases hk : word? ds with
  | none => rw [Option.bind_none, if_neg (Nat.not_lt.2 ((word?_eq_none_iff h).1 hk))]
  | some k =>
    obtain ⟨hnat, -, hless⟩ := toNat_of_word? h hk
    have hlt : value ds < twoTo 64 := hnat ▸ k.toNat_lt
    rw [Option.bind_some, hless, if_pos hlt]

/-- a number without a word is beyond every list whose length is a word -/
theorem value?_index_of_length_lt (hlen : values.length < twoTo 64) {ds : List Char} (h : isIndex ds = true)
    (taken : Nat) : (Values.positional values).value? taken (.index ds) = values[value ds - 1]? := by
  rw [value?_index values h]
  split_ifs with hlt
  · rfl
  · have hbeyond : values.length ≤ value ds - 1 := by omega
    rw [List.getElem?_eq_none hbeyond]

theorem value?_next (values : List String) (taken : Nat) :
    (Values.positional values).value? taken .next = values[taken]? := rfl

end

/-- what is shown for a placeholder that asks for the value with a number, the first one being number one -/
def shownAt (values : List String) (fallback : Fallback) (number : Nat) (p : Placeholder) : List Char :=
  if h : 1 ≤ number ∧ number ≤ values.length then values[number - 1].toList else fallback.shown p

theorem shownAt_of_pos {values : List String} {number : Nat} (h : 1 ≤ number) (fallback : Fallback) (p : Placeholder) :
    ((values[number - 1]?).map String.toList).getD (fallback.shown p) = shownAt values fallback number p := by
  unfold shownAt
  split_ifs with hle
  · rw [List.getElem?_eq_getElem (by omega)]
    rfl
  · rw [List.getElem?_eq_none (by omega)]
    rfl

/-! ## Placeholders of a cut -/

namespace Cut

/-- the number that the `k`-th placeholder of a cut asks for: the one it is written with, or one more than the letters in
front of it -/
def number (c : Cut) (k : Nat) : Placeholder → Nat
  | .index ds => value ds
  | .next => c.taken k + 1
  | .name _ => 0

theorem exists_place {qs : List (List Char × Placeholder)} {q : List Char × Placeholder} (hq : q ∈ qs) (i : Nat) :
    ∃ j, (j, q.2) ∈ places i qs := by
  induction qs generalizing i with
  | nil => cases hq
  | cons q' qs ih =>
    obtain ⟨l, p⟩ := q'
    rcases List.mem_cons.1 hq with rfl | hq
    · exact ⟨i + l.length, List.mem_cons_self⟩
    · obtain ⟨j, hj⟩ := ih hq (i + l.length + p.text.length)
      exact ⟨j, List.mem_cons_of_mem _ hj⟩

/-- only placeholders of the dialect are cut out -/
theorem Complete.legal {d : Dialect} {cs : List Char} {c : Cut} (h : c.Complete d cs) {q : List Char × Placeholder}
    (hq : q ∈ c.pieces) : q.2.Legal d := by
  obtain ⟨i, hi⟩ := exists_place hq 0
  exact ((h.occurs_iff i q.2).2 hi).1

theorem filled_congr {c : Cut} {r r' : Nat → Placeholder → List Char} (h : ∀ k, ∀ q ∈ c.pieces, r k q.2 = r' k q.2) :
    c.filled r = c.filled r' := by
  have hpieces : (c.pieces.mapIdx fun k q => q.1 ++ r k q.2) = c.pieces.mapIdx fun k q => q.1 ++ r' k q.2 :=
    List.mapIdx_eq_mapIdx_iff.2 fun k hk => by rw [h k _ (List.getElem_mem hk)]
  rw [filled, filled, hpieces]

end Cut

theorem replacement_by_number {values : List String} (hlen : values.length < twoTo 64) (fallback : Fallback) (c : Cut)
    (k : Nat) {p : Placeholder} (hp : p.Legal .positional) :
    replacement (.positional values) fallback (c.taken k) p = shownAt values fallback (c.number k p) p := by
  rw [replacement_eq]
  cases p with
  | name n => exact absurd hp id
  | index ds =>
    rw [value?_index_of_length_lt hlen hp]
    exact shownAt_of_pos (value_pos_of_isIndex hp) fallback _
  | next =>
    rw [value?_next]
    exact shownAt_of_pos (Nat.succ_pos (c.taken k)) fallback _

/-! ## Filling -/

/-- **Positional placeholders.** However a template is written as literal text and all of its placeholders in turn, each
placeholder becomes the value with the number it asks for, counted from one, or the fallback when there are not so many
values. A letter asks for one more than the letters in front of it; a number asks for itself, wherever it stands. The
number is never zero, so one less than its word is no wrapped word, and a number of more than 64 bits has no word. The
length of a list is a word, as it is wherever lists are kept in memory. -/
theorem fill_by_number (template : String) {values : List String} (fallback : Fallback)
    (hlen : values.length < twoTo 64) :
    (∃ c : Cut, c.Complete .positional template.toList) ∧
    (∀ c : Cut, c.Complete .positional template.toList →
      (fill template (.positional values) fallback).toList =
        c.filled fun k p => shownAt values fallback (c.number k p) p) ∧
    ∀ i ds, Occurs .positional template.toList i (.index ds) →
      (∀ k, word? ds = some k → k.toNat = value ds ∧ 1 ≤ k ∧ (k - 1).toNat = value ds - 1) ∧
      (word? ds = none ↔ twoTo 64 ≤ value ds) := by
  refine ⟨⟨_, cutOf_complete _ _⟩, fun c hc => ?_, fun i ds hi => ?_⟩
  · rw [hc.fill_eq (.positional values) fallback]
    exact Cut.filled_congr fun k q hq => replacement_by_number hlen fallback c k (hc.legal hq)
  · exact ⟨fun k hk => toNat_of_word? hi.1 hk, word?_eq_none_iff hi.1⟩

/-- letters go on past the end and are not moved by numbers, and a number one above a power of two does not wrap -/
theorem fill_by_number_interleaved :
    let template := "\x7b#n\x7d\x7b#2\x7dx\x7b#18446744073709551617\x7d\x7b#n\x7d\x7b#n\x7d"
    let c : Cut := ⟨[([], .next), ([], .index ['2']), (['x'], .index "18446744073709551617".toList), ([], .next),
      ([], .next)], []⟩
    ["a", "b"].length < twoTo 64 ∧ c.Complete .positional template.toList ∧
      (fill template (.positional ["a", "b"]) (.text "?")).toList = "abx?b?".toList := by
  intro template c
  have hcut : cutOf (tokens .positional template.toList) = c := by decide +kernel
  have hc := cutOf_complete .positional template.toList
  rw [hcut] at hc
  have hlen : ["a", "b"].length < twoTo 64 := by decide
  refine ⟨hlen, hc, ?_⟩
  rw [(fill_by_number template (.text "?") hlen).2.1 c hc]
  decide +kernel

end CommentDigest.Template
