/-
What a filled template consists of.

The value that a placeholder asks for is told here without the filler: by its name, by the number that it is written with,
or by the number of letters in front of it. Filling puts this value, or what stands in for it, in the place of every
occurrence, and copies everything else.

- `Values.given?`: the value that a placeholder asks for
- `value?_eq_given?`: the filler finds that value
- `fill_at_occurrences`: filling replaces every occurrence and copies everything else
-/
import CommentDigest.Proofs.Template.Positional

namespace CommentDigest.Template

/-- the value that a placeholder asks for, with so many letters in front of it: the one of its name, the one with its
number, counted from one, or the next one. A number of more than 64 bits asks for nothing -/
def Values.given? : Values → (letters : Nat) → Placeholder → Option String
  | .named f, _, .name n => f (String.ofList n)
  | .positional vs, _, .index ds => if Digits.value ds < twoTo 64 then vs[Digits.value ds - 1]? else none
  | .positional vs, letters, .next => vs[letters]?
  | _, _, _ => none

/-- a placeholder of the dialect gets the value that it asks for -/
theorem value?_eq_given? (values : Values) (letters : Nat) {p : Placeholder} (h : p.Legal values.dialect) :
    values.value? letters p = values.given? letters p := by
  cases values with
  | named f => cases p <;> rfl
  | positional vs =>
    cases p with
    | name n => rfl
    | next => rfl
    | index ds => exact value?_index vs h letters

/-- **Filling replaces the occurrences and nothing else.** The occurrences of a template do not overlap; the template
can be written as literal text and all of its occurrences in turn; and however it is so written, filling copies the
literal text and puts in the place of each occurrence the value that it asks for, as it is, or else the fallback text or
the occurrence itself. What is put in is part of the result only: no placeholder is read from it. -/
theorem fill_at_occurrences (template : String) (values : Values) (fallback : Fallback) :
    (∀ i p j q, Occurs values.dialect template.toList i p → Occurs values.dialect template.toList j q →
      (i = j ∧ p = q) ∨ i + p.text.length ≤ j ∨ j + q.text.length ≤ i) ∧
    (∃ c : Cut, c.Complete values.dialect template.toList) ∧
    ∀ c : Cut, c.Complete values.dialect template.toList →
      (fill template values fallback).toList = c.filled fun k p =>
        match values.given? (c.taken k) p, fallback with
        | some v, _ => v.toList
        | none, .text s => s.toList
        | none, .keep => p.text := by
  refine ⟨fun i p j q hp hq => occurs_disjoint hp hq, ⟨_, cutOf_complete _ _⟩, fun c hc => ?_⟩
  rw [hc.fill_eq values fallback]
  refine Cut.filled_congr fun k q hq => ?_
  rw [replacement_eq, value?_eq_given? values (c.taken k) (hc.legal hq)]
  cases values.given? (c.taken k) q.2 <;> cases fallback <;> rfl

/-- braces that open nothing are text, a value that looks like a placeholder stays as it is, and so does the other
dialect; a missing value gives way to the fallback text or keeps its placeholder -/
theorem fill_among_loose_braces :
    let named := "\x7b\x7b$a\x7d\x7b$b\x7b$b\x7d"
    let c : Cut := ⟨[(['{'], .name ['a']), (['{', '$', 'b'], .name ['b'])], []⟩
    let numbered := "\x7b#2\x7d\x7b$b\x7d\x7b#n\x7d\x7b#n\x7d-\x7b#n\x7d\x7b#9\x7d\x7b#0\x7d"
    let c' : Cut := ⟨[([], .index ['2']), ("\x7b$b\x7d".toList, .next), ([], .next), (['-'], .next),
      ([], .index ['9'])], "\x7b#0\x7d".toList⟩
    c.Complete .named named.toList ∧ c'.Complete .positional numbered.toList ∧
      (fill named (.single "b" "\x7b$a\x7d") (.text "?")).toList = "\x7b?\x7b$b\x7b$a\x7d".toList ∧
      (fill named (.single "b" "\x7b$a\x7d") .keep).toList = "\x7b\x7b$a\x7d\x7b$b\x7b$a\x7d".toList ∧
      (fill numbered (.positional ["x", "\x7b#1\x7d"]) (.text "?")).toList =
        "\x7b#1\x7d\x7b$b\x7dx\x7b#1\x7d-??\x7b#0\x7d".toList ∧
      (fill numbered (.positional ["x", "\x7b#1\x7d"]) .keep).toList =
        "\x7b#1\x7d\x7b$b\x7dx\x7b#1\x7d-\x7b#n\x7d\x7b#9\x7d\x7b#0\x7d".toList := by
  intro named c numbered c'
  have hcut : cutOf (tokens .named named.toList) = c := by decide +kernel
  have hcut' : cutOf (tokens .positional numbered.toList) = c' := by decide +kernel
  have hc : c.Complete .named named.toList := hcut ▸ cutOf_complete .named named.toList
  have hc' : c'.Complete .positional numbered.toList := hcut' ▸ cutOf_complete .positional numbered.toList
  refine ⟨hc, hc', ?_, ?_, ?_, ?_⟩
  · rw [(fill_at_occurrences named (.single "b" "\x7b$a\x7d") (.text "?")).2.2 c hc]
    decide +kernel
  · rw [(fill_at_occurrences named (.single "b" "\x7b$a\x7d") .keep).2.2 c hc]
    decide +kernel
  · rw [(fill_at_occurrences numbered (.positional ["x", "\x7b#1\x7d"]) (.text "?")).2.2 c' hc']
    decide +kernel
  · rw [(fill_at_occurrences numbered (.positional ["x", "\x7b#1\x7d"]) .keep).2.2 c' hc']
    decide +kernel

end CommentDigest.Template
