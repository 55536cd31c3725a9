/-
Every place in a tree has a path, in more than one spelling.

A place is reached by steps: names of members and positions of items. They can be written as one segment each, and a
position can stand in brackets behind the step in front of it as well, as long as that step reads as a word. Whatever
spelling is taken, reading the path gives the texts of the steps back, and walking by them leads to the place.

- `indexed?_eq_some_iff`: which segments are taken as a key with an index
- `segments_eq_splitOn`, `segments_join`: dots between segments
- `steps_of_spelling`: reading undoes writing, whatever the spelling
- `walk_of_leads`: walking by the texts of steps
- `find?_of_leads`: every place, in every spelling
-/
import CommentDigest.Proofs.Path
import CommentDigest.Proofs.Text.Digits
import Mathlib.Data.List.TakeWhile
import Mathlib.Tactic.Common

namespace CommentDigest.Path

/-! ## Segments -/

/-- a word with digits in brackets behind it -/
structure Indexed (segment key digits : List Char) : Prop where
  text : segment = key ++ '[' :: (digits ++ [']'])
  key_ne : key ≠ []
  word : ∀ c ∈ key, isWordChar c = true
  digits_ne : digits ≠ []
  digit : ∀ c ∈ digits, c.isDigit = true

theorem bracketed?_eq_some_iff {cs ds : List Char} :
    bracketed? cs = some ds ↔ cs = '[' :: (ds ++ [']']) ∧ ds ≠ [] ∧ ∀ c ∈ ds, c.isDigit = true := by
  constructor
  · intro h
    unfold bracketed? at h
    split at h
    · rename_i r
      dsimp only at h
      split_ifs at h with hr
      obtain rfl := Option.some.inj h
      refine ⟨?_, hr.1, fun c hc => List.mem_takeWhile_imp hc⟩
      rw [← hr.2, List.takeWhile_append_dropWhile]
    · cases h
  · rintro ⟨rfl, hne, hdigit⟩
    have hbracket : Char.isDigit ']' = false := by decide
    have htake : (ds ++ [']']).takeWhile Char.isDigit = ds := by
      rw [List.takeWhile_append_of_pos hdigit, List.takeWhile_cons_of_neg (by simp [hbracket]), List.append_nil]
    have hdrop : (ds ++ [']']).dropWhile Char.isDigit = [']'] := by
      rw [List.dropWhile_append_of_pos hdigit, List.dropWhile_cons_of_neg (by simp [hbracket])]
    rw [bracketed?, htake, hdrop]
    exact if_pos ⟨hne, rfl⟩

/-- a segment is taken as a key with an index exactly when it is a word with digits in brackets behind it -/
theorem indexed?_eq_some_iff {segment key digits : List Char} :
    indexed? segment = some (key, digits) ↔ Indexed segment key digits := by
  constructor
  · intro h
    unfold indexed? at h
    dsimp only at h
    split_ifs at h with hkey
    obtain ⟨ds, hds, hpair⟩ := Option.map_eq_some_iff.1 h
    obtain ⟨rfl, rfl⟩ := Prod.mk.inj hpair
    obtain ⟨hrest, hne, hdigit⟩ := bracketed?_eq_some_iff.1 hds
    refine ⟨?_, hkey, fun c hc => List.mem_takeWhile_imp hc, hne, hdigit⟩
    rw [← hrest, List.takeWhile_append_dropWhile]
  · rintro ⟨rfl, hkey, hword, hne, hdigit⟩
    have hbracket : isWordChar '[' = false := by decide
    have htake : (key ++ '[' :: (digits ++ [']'])).takeWhile isWordChar = key := by
      rw [List.takeWhile_append_of_pos hword, List.takeWhile_cons_of_neg (by simp [hbracket]), List.append_nil]
    have hdrop : (key ++ '[' :: (digits ++ [']'])).dropWhile isWordChar = '[' :: (digits ++ [']']) := by
      rw [List.dropWhile_append_of_pos hword, List.dropWhile_cons_of_neg (by simp [hbracket])]
    simp only [indexed?, htake, hdrop, if_neg hkey, bracketed?_eq_some_iff.2 ⟨rfl, hne, hdigit⟩, Option.map_some]

theorem segmentSteps_of_indexed {segment key digits : List Char} (h : Indexed segment key digits) :
    segmentSteps segment = [key, digits] := by
  simp only [segmentSteps, indexed?_eq_some_iff.2 h]

theorem segmentSteps_of_not_indexed {segment : List Char} (h : ∀ key digits, ¬ Indexed segment key digits) :
    segmentSteps segment = [segment] := by
  unfold segmentSteps
  split
  · rename_i key digits hsome
    exact absurd (indexed?_eq_some_iff.1 hsome) (h key digits)
  · rfl

/-- segments are the parts between dots -/
theorem segments_eq_splitOn (cs : List Char) : segments cs = cs.splitOn '.' := by
  induction cs with
  | nil => rfl
  | cons c cs ih =>
    rw [segments, ih, List.splitOn, List.splitOn, List.splitOnP_cons_eq_if_modifyHead]
    by_cases hc : c = '.'
    · rw [if_pos hc, if_pos (by simpa using hc)]
    · rw [if_neg hc, if_neg (by simpa using hc)]
      cases hsplit : List.splitOnP (· == '.') cs with
      | nil => exact absurd hsplit (List.splitOnP_ne_nil _ cs)
      | cons s ss => rfl

/-- segments without dots, joined by dots, are read back -/
theorem segments_join {ss : List String} (hne : ss ≠ []) (hdots : ∀ s ∈ ss, '.' ∉ s.toList) :
    segments (String.intercalate "." ss).toList = ss.map String.toList := by
  rw [segments_eq_splitOn, String.toList_intercalate]
  refine List.splitOn_intercalate '.' ?_ (by simpa using hne)
  intro l hl
  obtain ⟨s, hs, rfl⟩ := List.mem_map.1 hl
  exact hdots s hs

/-! ## Places -/

/-- one step down a tree -/
inductive Edge where
  | key (name : String)
  | item (position : Nat)
  deriving DecidableEq, Repr

/-- a step as it is written: a name as it is, a position in decimal -/
def Edge.text : Edge → String
  | key name => name
  | item position => toString position

/-- steps that lead from one value to another -/
inductive Leads : List Edge → Json → Json → Prop
  | here (v : Json) : Leads [] v v
  | key {name : String} {ms : Members} {w u : Json} {es : List Edge} :
      Members.get? ms name = some w → Leads es w u → Leads (.key name :: es) (.object ms) u
  | item {i : Nat} {xs : List Json} {w u : Json} {es : List Edge} :
      xs[i]? = some w → Leads es w u → Leads (.item i :: es) (.array xs) u

/-- a name that is a segment of its own: without dots, and not a word with an index -/
structure Ordinary (name : String) : Prop where
  dot : '.' ∉ name.toList
  indexed : ∀ key digits, ¬ Indexed name.toList key digits

/-- a step that an index can be attached to -/
def Edge.IsWord (e : Edge) : Prop := e.text.toList ≠ [] ∧ ∀ c ∈ e.text.toList, isWordChar c = true

instance (e : Edge) : Decidable e.IsWord := @instDecidableAnd _ _ inferInstance (List.decidableBAll _ _)

/-- the segments that steps can be written as: one for each step, or one for a word with the position behind it -/
inductive Spelling : List Edge → List String → Prop
  | nil : Spelling [] []
  | own (e : Edge) {es : List Edge} {ss : List String} : Spelling es ss → Spelling (e :: es) (e.text :: ss)
  | attached {e : Edge} (i : Nat) {es : List Edge} {ss : List String} :
      e.IsWord → Spelling es ss → Spelling (e :: .item i :: es) ((e.text ++ "[" ++ toString i ++ "]") :: ss)

/-! ## Positions -/

theorem toList_toString (i : Nat) : (toString i).toList = Digits.ofNat i := String.toList_ofList

theorem isDigit_ofNat {i : Nat} {c : Char} (h : c ∈ Digits.ofNat i) : c.isDigit = true :=
  Nat.isDigit_of_mem_toDigits (by decide) (by decide) h

/-- a position that is a word is read back from its digits -/
theorem word?_ofNat {i : Nat} (h : i < twoTo 64) : Digits.word? (Digits.ofNat i) = some (UInt64.ofNat i) := by
  have hne : Digits.ofNat i ≠ [] := Nat.toDigits_ne_nil
  have hvalue : Digits.value (Digits.ofNat i) = i := Nat.ofDigitChars_ten_toDigits
  rw [Digits.word?_digits hne fun c hc => isDigit_ofNat hc, hvalue, if_pos h]

/-- the text of a position is an ordinary name -/
theorem ordinary_position (i : Nat) : Ordinary (toString i) where
  dot h := by
    rw [toList_toString] at h
    exact absurd (isDigit_ofNat h) (by decide)
  indexed key digits h := by
    have hmem : '[' ∈ (toString i).toList := by
      rw [h.text]
      exact List.mem_append_right _ List.mem_cons_self
    rw [toList_toString] at hmem
    exact absurd (isDigit_ofNat hmem) (by decide)

theorem ordinary_text {es : List Edge} (hkeys : ∀ name, .key name ∈ es → Ordinary name) {e : Edge} (he : e ∈ es) :
    Ordinary e.text := by
  cases e with
  | key name => exact hkeys name he
  | item i => exact ordinary_position i

/-- a word with a position in brackets is taken as the two -/
theorem indexed_attached {e : Edge} (h : e.IsWord) (i : Nat) :
    Indexed (e.text ++ "[" ++ toString i ++ "]").toList e.text.toList (toString i).toList where
  text := by simp
  key_ne := h.1
  word := h.2
  digits_ne := by
    rw [toList_toString]
    exact Nat.toDigits_ne_nil
  digit c hc := by
    rw [toList_toString] at hc
    exact isDigit_ofNat hc

/-! ## Spellings -/

theorem Spelling.ne_nil {es : List Edge} {ss : List String} (h : Spelling es ss) (hne : es ≠ []) : ss ≠ [] := by
  cases h with
  | nil => exact absurd rfl hne
  | own e hrest => exact List.cons_ne_nil _ _
  | attached i hword hrest => exact List.cons_ne_nil _ _

/-- no segment of a spelling has a dot -/
theorem Spelling.dot_notMem {es : List Edge} {ss : List String} (h : Spelling es ss)
    (hkeys : ∀ name, .key name ∈ es → Ordinary name) : ∀ s ∈ ss, '.' ∉ s.toList := by
  induction h with
  | nil => exact fun s hs => absurd hs List.not_mem_nil
  | @own e es ss hrest ih =>
    intro s hs
    rcases List.mem_cons.1 hs with rfl | hs
    · exact (ordinary_text hkeys List.mem_cons_self).dot
    · exact ih (fun name hname => hkeys name (List.mem_cons_of_mem _ hname)) s hs
  | @attached e i es ss hword hrest ih =>
    intro s hs
    rcases List.mem_cons.1 hs with rfl | hs
    · have hfront := (ordinary_text hkeys List.mem_cons_self).dot
      have hposition := (ordinary_position i).dot
      simp only [String.toList_append, List.mem_append, not_or]
      exact ⟨⟨⟨hfront, by decide⟩, hposition⟩, by decide⟩
    · exact ih (fun name hname => hkeys name (List.mem_cons_of_mem _ (List.mem_cons_of_mem _ hname))) s hs

/-- the segments of a spelling are taken apart into the texts of the steps -/
theorem Spelling.segmentSteps {es : List Edge} {ss : List String} (h : Spelling es ss)
    (hkeys : ∀ name, .key name ∈ es → Ordinary name) :
    (ss.map String.toList).flatMap Path.segmentSteps = es.map fun e => e.text.toList := by
  induction h with
  | nil => rfl
  | @own e es ss hrest ih =>
    rw [List.map_cons, List.flatMap_cons, segmentSteps_of_not_indexed (ordinary_text hkeys List.mem_cons_self).indexed,
      ih fun name hname => hkeys name (List.mem_cons_of_mem _ hname)]
    rfl
  | @attached e i es ss hword hrest ih =>
    rw [List.map_cons, List.flatMap_cons, segmentSteps_of_indexed (indexed_attached hword i),
      ih fun name hname => hkeys name (List.mem_cons_of_mem _ (List.mem_cons_of_mem _ hname))]
    rfl

/-- reading a path gives the texts of the steps, whatever the spelling -/
theorem steps_of_spelling {es : List Edge} {ss : List String} (h : Spelling es ss) (hne : es ≠ [])
    (hkeys : ∀ name, .key name ∈ es → Ordinary name) :
    steps (String.intercalate "." ss).toList = es.map fun e => e.text.toList := by
  rw [steps, segments_join (h.ne_nil hne) (h.dot_notMem hkeys), h.segmentSteps hkeys]

/-! ## Walks -/

theorem walk_of_leads {es : List Edge} {v w : Json} (h : Leads es v w) (hwords : ∀ i, .item i ∈ es → i < twoTo 64) :
    walk v (es.map fun e => e.text.toList) = some w := by
  induction h with
  | here v => rfl
  | @key name ms w u es hget _ ih =>
    have hchild : child? (.object ms) name.toList = some w := by
      rw [child?, String.ofList_toList]
      exact hget
    rw [List.map_cons, walk, Edge.text, hchild]
    exact ih fun i hi => hwords i (List.mem_cons_of_mem _ hi)
  | @item i xs w u es hget _ ih =>
    have hword : i < twoTo 64 := hwords i List.mem_cons_self
    have hchild : child? (.array xs) (toString i).toList = some w := by
      rw [child?, toList_toString, word?_ofNat hword, Option.bind_some, Digits.toNat_ofNat_of_lt hword]
      exact hget
    rw [List.map_cons, walk, Edge.text, hchild]
    exact ih fun i hi => hwords i (List.mem_cons_of_mem _ hi)

/-- **Every place has a path.** Steps that lead from a value to another one, if there are any, the names among them are
ordinary and the positions are words, are found by every path that spells them: a name or a position in a segment of its
own, or a position in brackets behind a step that reads as a word. The positions of a list are words wherever its length
is one, as it is in memory. -/
theorem find?_of_leads {es : List Edge} {v w : Json} {ss : List String} (hne : es ≠ [])
    (hkeys : ∀ name, .key name ∈ es → Ordinary name) (hwords : ∀ i, .item i ∈ es → i < twoTo 64)
    (hleads : Leads es v w) (hspelling : Spelling es ss) : find? v (String.intercalate "." ss) = some w := by
  rw [find?, steps_of_spelling hspelling hne hkeys]
  exact walk_of_leads hleads hwords

/-- a place below an empty name, a name of digits and one with a bracket left open, with one position in brackets behind
a name, one behind a position, and one on its own -/
theorem find?_of_leads_mixed :
    let v : Json := .object [("", .object [("7", .array [.null, .array [.array [.object [("b[1", .string "here")]]]])])]
    let es : List Edge := [.key "", .key "7", .item 1, .item 0, .item 0, .key "b[1"]
    let ss : List String := ["", "7[1]", "0[0]", "b[1"]
    es ≠ [] ∧ (∀ name, .key name ∈ es → Ordinary name) ∧ (∀ i, .item i ∈ es → i < twoTo 64) ∧
      Leads es v (.string "here") ∧ Spelling es ss ∧
      find? v ".7[1].0[0].b[1" = some (.string "here") := by
  intro v es ss
  have hordinary : ∀ name ∈ ["", "7", "b[1"], '.' ∉ name.toList ∧ indexed? name.toList = none := by decide
  have hkeys : ∀ name, .key name ∈ es → Ordinary name := by
    intro name hname
    obtain ⟨hdot, hnone⟩ := hordinary name (by simpa [es] using hname)
    exact ⟨hdot, fun key digits h => by rw [indexed?_eq_some_iff.2 h] at hnone; cases hnone⟩
  have hwords : ∀ i, .item i ∈ es → i < twoTo 64 := by
    intro i hi
    have hsmall : i = 1 ∨ i = 0 := by simpa [es] using hi
    rcases hsmall with rfl | rfl <;> decide
  have hleads : Leads es v (.string "here") :=
    .key rfl (.key rfl (.item rfl (.item rfl (.item rfl (.key rfl (.here _))))))
  have hword : ∀ e ∈ [Edge.key "7", Edge.item 0], e.IsWord := by decide
  have hspelling : Spelling es ss :=
    .own (.key "") (.attached 1 (hword (.key "7") (by decide)) (.attached 0 (hword (.item 0) (by decide))
      (.own (.key "b[1") .nil)))
  have hne : es ≠ [] := List.cons_ne_nil _ _
  have hjoin : String.intercalate "." ss = ".7[1].0[0].b[1" := by decide +kernel
  exact ⟨hne, hkeys, hwords, hleads, hspelling, hjoin ▸ find?_of_leads hne hkeys hwords hleads hspelling⟩

end CommentDigest.Path
