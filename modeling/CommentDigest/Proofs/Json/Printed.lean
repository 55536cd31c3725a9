/-
JSON text reads back as the value that was written.

This holds of every value whose numbers are exact integers, whose objects have distinct names and which is no deeper
than the reader's levels: a float need not come back as the same float, and a repeated name or one level too many cannot.

- `spells_printed`: compact and indented text spell their value
- `parse_render`, `parse_renderPretty`: reading undoes writing
- `Prints.array`, `Prints.object`: how arrays and objects are laid out when they are written
- `printable_chars`: compact text has no control characters, whatever the value
-/
import CommentDigest.Proofs.Json.Layout
import CommentDigest.Proofs.Json.Tree
import Mathlib.Data.List.Forall2

namespace CommentDigest.Json

/-! ## Numbers -/

/-- every number of the tree is an integer that is kept as it is -/
def Exact (v : Json) : Prop := ∀ x, PartOf (.number x) v → ∃ i, x = .int i ∧ Number.fits i = true

theorem Exact.of_partOf {w v : Json} (hv : Exact v) (h : PartOf w v) : Exact w := fun x hx => hv x (hx.trans h)

@[simp] theorem exact_null : Exact .null := by rintro x ⟨⟩

@[simp] theorem exact_bool (b : Bool) : Exact (.bool b) := by rintro x ⟨⟩

@[simp] theorem exact_string (s : String) : Exact (.string s) := by rintro x ⟨⟩

@[simp] theorem exact_int {i : Int} : Exact (.number (.int i)) ↔ Number.fits i = true := by
  constructor
  · intro h
    obtain ⟨j, hj, hfits⟩ := h _ .refl
    cases hj
    exact hfits
  · rintro h x ⟨⟩
    exact ⟨i, rfl, h⟩

@[simp] theorem exact_array {xs : List Json} : Exact (.array xs) ↔ ∀ x ∈ xs, Exact x := by
  constructor
  · exact fun h x hx y hy => h y (.item hx hy)
  · intro h y hy
    cases hy with
    | item hx hw => exact h _ hx y hw

@[simp] theorem exact_object {ms : List (String × Json)} : Exact (.object ms) ↔ ∀ m ∈ ms, Exact m.2 := by
  constructor
  · exact fun h m hm y hy => h y (.member hm hy)
  · intro h y hy
    cases hy with
    | member hm hw => exact h _ hm y hw

theorem twoTo_63 : twoTo 63 = 9223372036854775808 := rfl

theorem twoTo_64 : twoTo 64 = 18446744073709551616 := rfl

theorem fits_iff {i : Int} : Number.fits i = true ↔ -9223372036854775808 ≤ i ∧ i < 18446744073709551616 := by
  rw [Number.fits, Bool.and_eq_true, decide_eq_true_iff, decide_eq_true_iff, twoTo_63, twoTo_64]
  rfl

theorem whole_negative {i : Int} (hneg : i < 0) (hfits : Number.fits i = true) :
    Read.whole false i.natAbs = .int i := by
  have hrange : 1 ≤ i.natAbs ∧ i.natAbs ≤ twoTo 63 := by
    have := fits_iff.1 hfits
    rw [twoTo_63]
    omega
  have hvalue : -(i.natAbs : Int) = i := by omega
  rw [Read.whole, if_neg Bool.false_ne_true, if_pos hrange, hvalue]

theorem whole_positive {i : Int} (hneg : ¬ i < 0) : Read.whole true i.natAbs = .int i := by
  have hvalue : (i.natAbs : Int) = i := by omega
  rw [Read.whole, if_pos rfl, hvalue]

theorem spells_intText {n : Nat} {i : Int} (h : Number.fits i = true) :
    Spells n (intText i) (.value (.number (.int i))) := by
  have hlt : i.natAbs < twoTo 64 := by
    have := fits_iff.1 h
    rw [twoTo_64]
    omega
  unfold intText
  split_ifs with hneg
  · exact .negative (whole_negative hneg h ▸ numeral_digits false hlt)
  · exact .positive (whole_positive hneg ▸ numeral_digits true hlt)

/-! ## Items and members -/

/-- a member as it is written in compact text -/
def memberChars (m : String × Json) : List Char := quote m.1.toList ++ ':' :: chars m.2

theorem itemsChars_cons (x : Json) (xs : List Json) :
    itemsChars (x :: xs) = chars x ++ xs.flatMap fun y => ',' :: chars y := by
  induction xs generalizing x with
  | nil => rw [itemsChars, List.flatMap_nil, List.append_nil]
  | cons y ys ih => rw [itemsChars, ih, List.flatMap_cons, List.cons_append]

theorem membersChars_cons (m : String × Json) (ms : List (String × Json)) :
    membersChars (m :: ms) = memberChars m ++ ms.flatMap fun l => ',' :: memberChars l := by
  induction ms generalizing m with
  | nil => rw [membersChars, List.flatMap_nil, List.append_nil, memberChars]
  | cons l ls ih =>
    rw [membersChars, ih, List.flatMap_cons, memberChars]
    simp only [memberChars, List.append_assoc, List.cons_append]

theorem prettyItems_cons (level : Nat) (x : Json) (xs : List Json) :
    prettyItems level (x :: xs) =
      (newLine level ++ prettyChars level x) ++ xs.flatMap fun y => ',' :: (newLine level ++ prettyChars level y) := by
  induction xs generalizing x with
  | nil => rw [prettyItems, List.flatMap_nil, List.append_nil]
  | cons y ys ih => rw [prettyItems, ih, List.flatMap_cons, List.cons_append]

theorem prettyMembers_cons (level : Nat) (m : String × Json) (ms : List (String × Json)) :
    prettyMembers level (m :: ms) =
      memberText (newLine level) (fun v => ' ' :: prettyChars level v) m ++
        ms.flatMap fun l => ',' :: memberText (newLine level) (fun v => ' ' :: prettyChars level v) l := by
  induction ms generalizing m with
  | nil => simp only [prettyMembers, memberText, List.flatMap_nil, List.append_nil, List.append_assoc]
  | cons l ls ih =>
    rw [prettyMembers, ih, List.flatMap_cons]
    simp only [memberText, List.append_assoc, List.cons_append]

theorem blanks_newLine (level : Nat) : Blanks (newLine level) := by
  refine Blanks.cons (by decide) fun c hc => ?_
  rw [List.eq_of_mem_replicate hc]
  decide

/-- an array in compact text -/
theorem exists_itemTexts_chars {xs : List Json} (h : ∀ x ∈ xs, IsValue (chars x)) :
    ∃ t, chars (.array xs) = '[' :: t ∧ ItemTexts true t (xs.map chars) := by
  refine ⟨_, by rw [chars], ?_⟩
  cases xs with
  | nil => exact .close blanks_nil
  | cons x xs =>
    rw [itemsChars_cons]
    exact itemTexts_first blanks_nil h

/-- an array in indented text -/
theorem exists_itemTexts_pretty (level : Nat) {xs : List Json} (h : ∀ x ∈ xs, IsValue (prettyChars (level + 1) x)) :
    ∃ t, prettyChars level (.array xs) = '[' :: t ∧
      ItemTexts true t (xs.map fun x => newLine (level + 1) ++ prettyChars (level + 1) x) := by
  cases xs with
  | nil => exact ⟨[']'], by rw [prettyChars], .close blanks_nil⟩
  | cons x xs =>
    refine ⟨_, by rw [prettyChars], ?_⟩
    rw [prettyItems_cons, List.append_assoc]
    exact itemTexts_first (blanks_newLine level) fun y hy => (h y hy).blanks (blanks_newLine (level + 1))

/-- an object in compact text -/
theorem exists_memberTexts_chars {ms : List (String × Json)} (h : ∀ m ∈ ms, IsValue (chars m.2)) :
    ∃ t, chars (.object ms) = '{' :: t ∧ MemberTexts true t (ms.map fun m => (m.1, chars m.2)) := by
  refine ⟨_, by rw [chars], ?_⟩
  cases ms with
  | nil => exact .close blanks_nil
  | cons m ms =>
    rw [membersChars_cons]
    exact memberTexts_first blanks_nil blanks_nil h

/-- an object in indented text -/
theorem exists_memberTexts_pretty (level : Nat) {ms : List (String × Json)}
    (h : ∀ m ∈ ms, IsValue (prettyChars (level + 1) m.2)) :
    ∃ t, prettyChars level (.object ms) = '{' :: t ∧
      MemberTexts true t (ms.map fun m => (m.1, ' ' :: prettyChars (level + 1) m.2)) := by
  cases ms with
  | nil => exact ⟨['}'], by rw [prettyChars], .close blanks_nil⟩
  | cons m ms =>
    refine ⟨_, by rw [prettyChars], ?_⟩
    rw [prettyMembers_cons, List.append_assoc]
    have hblank : Blanks [' '] := blanks_nil.cons (by decide)
    exact memberTexts_first (blanks_newLine (level + 1)) (blanks_newLine level) fun l hl => (h l hl).blanks hblank

theorem spells_quote {n : Nat} (s : String) : Spells n (quote s.toList) (.value (.string s)) := by
  have h := Spells.string (n := n) (body_quote s.toList)
  rwa [String.ofList_toList] at h

/-- an array whose items are spelled where they stand -/
theorem spells_array_of_texts {n : Nat} {t : List Char} {f : Json → List Char} {xs : List Json}
    (ht : ItemTexts true t (xs.map f)) (h : ∀ x ∈ xs, Spells n (f x) (.value x)) :
    Spells (n + 1) ('[' :: t) (.value (.array xs)) := by
  refine .array (spells_items_iff.2 ⟨_, ht, ?_⟩)
  rw [List.forall₂_map_left_iff]
  exact List.forall₂_same.2 h

/-- an object with distinct names whose members are spelled where they stand -/
theorem spells_object_of_texts {n : Nat} {t : List Char} {f : Json → List Char} {ms : List (String × Json)}
    (hnodup : (Assoc.names ms).Nodup) (ht : MemberTexts true t (ms.map fun m => (m.1, f m.2)))
    (h : ∀ m ∈ ms, Spells n (f m.2) (.value m.2)) : Spells (n + 1) ('{' :: t) (.value (.object ms)) := by
  have hmembers : Spells n t (.members true ms) := by
    refine spells_members_iff.2 ⟨_, ht, ?_⟩
    rw [Assoc.Related, List.forall₂_map_left_iff]
    exact List.forall₂_same.2 fun m hm => ⟨rfl, h m hm⟩
  have hobject := Spells.object hmembers
  rwa [show Members.ofList ms = ms from Assoc.collect_of_nodup hnodup] at hobject

/-! ## Reading undoes writing -/

/-- a tree of so many levels at most of which nothing is lost when it is written -/
structure Lossless (levels : Nat) (v : Json) : Prop where
  depth : v.depth ≤ levels
  distinct : Distinct v
  exact : Exact v

theorem Lossless.mono {m n : Nat} {v : Json} (h : Lossless m v) (hle : m ≤ n) : Lossless n v :=
  ⟨h.depth.trans hle, h.distinct, h.exact⟩

theorem lossless_null : Lossless 0 .null := ⟨Nat.zero_le _, everyObject_null, exact_null⟩

theorem lossless_string (s : String) : Lossless 0 (.string s) :=
  ⟨Nat.zero_le _, everyObject_string s, exact_string s⟩

theorem lossless_int {i : Int} (h : Number.fits i = true) : Lossless 0 (.number (.int i)) :=
  ⟨Nat.zero_le _, everyObject_number _, exact_int.2 h⟩

theorem lossless_array {n : Nat} {xs : List Json} : Lossless (n + 1) (.array xs) ↔ ∀ x ∈ xs, Lossless n x := by
  constructor
  · rintro ⟨hdepth, hdistinct, hexact⟩ x hx
    exact ⟨depth_array_le.1 hdepth x hx, everyObject_array.1 hdistinct x hx, exact_array.1 hexact x hx⟩
  · intro h
    refine ⟨depth_array_le.2 fun x hx => (h x hx).depth, everyObject_array.2 fun x hx => (h x hx).distinct, ?_⟩
    exact exact_array.2 fun x hx => (h x hx).exact

theorem lossless_object {n : Nat} {ms : List (String × Json)} :
    Lossless (n + 1) (.object ms) ↔ (Assoc.names ms).Nodup ∧ ∀ m ∈ ms, Lossless n m.2 := by
  constructor
  · rintro ⟨hdepth, hdistinct, hexact⟩
    obtain ⟨hnodup, hms⟩ := everyObject_object.1 hdistinct
    exact ⟨hnodup, fun m hm => ⟨depth_object_le.1 hdepth m hm, hms m hm, exact_object.1 hexact m hm⟩⟩
  · rintro ⟨hnodup, h⟩
    refine ⟨depth_object_le.2 fun m hm => (h m hm).depth, ?_, exact_object.2 fun m hm => (h m hm).exact⟩
    exact everyObject_object.2 ⟨hnodup, fun m hm => (h m hm).distinct⟩

/-- compact and indented text spell their value, at any level of indentation -/
theorem spells_printed {v : Json} {n : Nat} (h : Lossless n v) :
    Spells n (chars v) (.value v) ∧ ∀ level, Spells n (prettyChars level v) (.value v) := by
  induction v using tree_induction generalizing n with
  | null => exact ⟨.null, fun _ => .null⟩
  | bool b => cases b with
    | true => exact ⟨.yes, fun _ => .yes⟩
    | false => exact ⟨.no, fun _ => .no⟩
  | number x =>
    obtain ⟨i, rfl, hfits⟩ := h.exact x .refl
    exact ⟨spells_intText hfits, fun _ => spells_intText hfits⟩
  | string s => exact ⟨spells_quote s, fun _ => spells_quote s⟩
  | array xs ih =>
    cases n with
    | zero => exact absurd h.depth (by simp [depth])
    | succ n =>
      have hitem := fun x hx => ih x hx (lossless_array.1 h x hx)
      constructor
      · obtain ⟨t, ht, htexts⟩ := exists_itemTexts_chars fun x hx => ⟨n, x, (hitem x hx).1⟩
        rw [ht]
        exact spells_array_of_texts htexts fun x hx => (hitem x hx).1
      · intro level
        obtain ⟨t, ht, htexts⟩ := exists_itemTexts_pretty level fun x hx => ⟨n, x, (hitem x hx).2 (level + 1)⟩
        rw [ht]
        exact spells_array_of_texts htexts fun x hx => ((hitem x hx).2 (level + 1)).blanks (blanks_newLine _)
  | object ms ih =>
    cases n with
    | zero => exact absurd h.depth (by simp [depth])
    | succ n =>
      obtain ⟨hnodup, hms⟩ := lossless_object.1 h
      have hmember := fun m hm => ih m hm (hms m hm)
      constructor
      · obtain ⟨t, ht, htexts⟩ := exists_memberTexts_chars fun m hm => ⟨n, m.2, (hmember m hm).1⟩
        rw [ht]
        exact spells_object_of_texts hnodup htexts fun m hm => (hmember m hm).1
      · intro level
        obtain ⟨t, ht, htexts⟩ := exists_memberTexts_pretty level fun m hm => ⟨n, m.2, (hmember m hm).2 (level + 1)⟩
        have hblank : Read.isBlank ' ' = true := by decide
        rw [ht]
        exact spells_object_of_texts (f := fun v => ' ' :: prettyChars (level + 1) v) hnodup htexts fun m hm =>
          .blank hblank ((hmember m hm).2 (level + 1))

/-- **Compact text spells its value.** -/
theorem spells_chars {v : Json} {n : Nat} (hdepth : v.depth ≤ n) (hdistinct : Distinct v) (hexact : Exact v) :
    Spells n (chars v) (.value v) :=
  (spells_printed ⟨hdepth, hdistinct, hexact⟩).1

/-- **Reading undoes writing.** -/
theorem parse_render {v : Json} (hdepth : v.depth ≤ Read.maxLevels) (hdistinct : Distinct v) (hexact : Exact v) :
    parse (render v) = .ok v :=
  parse_eq_ok_iff.2 ⟨chars v, [], by simp [render], spells_chars hdepth hdistinct hexact, by simp⟩

/-- **Reading undoes indented writing**, and blanks may follow. -/
theorem parse_renderPretty {v : Json} (h : Lossless Read.maxLevels v) {ws : List Char} (hws : Blanks ws) :
    parse (renderPretty v ++ String.ofList ws) = .ok v :=
  parse_eq_ok_iff.2 ⟨prettyChars 0 v, ws, by simp [renderPretty], (spells_printed h).2 0, hws⟩

/-! ## Printers -/

/-- a way of writing values: compact, indented at a level, or behind blanks -/
inductive Prints : (Json → List Char) → Prop
  | compact : Prints chars
  | indented (level : Nat) : Prints (prettyChars level)
  | behind {ws : List Char} {f : Json → List Char} : Blanks ws → Prints f → Prints fun v => ws ++ f v

section

variable {f : Json → List Char} {n : Nat}

theorem Prints.spells (hf : Prints f) {v : Json} (h : Lossless n v) : Spells n (f v) (.value v) := by
  induction hf with
  | compact => exact (spells_printed h).1
  | indented level => exact (spells_printed h).2 level
  | behind hws _ ih => exact ih.blanks hws

/-- an array as it is printed -/
theorem Prints.array (hf : Prints f) {xs : List Json} (h : ∀ x ∈ xs, Lossless n x) :
    ∃ ws t g, f (.array xs) = ws ++ '[' :: t ∧ Blanks ws ∧ Prints g ∧ ItemTexts true t (xs.map g) := by
  induction hf with
  | compact =>
    obtain ⟨t, ht, htexts⟩ := exists_itemTexts_chars fun x hx => ⟨n, x, (spells_printed (h x hx)).1⟩
    exact ⟨[], t, _, ht, blanks_nil, .compact, htexts⟩
  | indented level =>
    obtain ⟨t, ht, htexts⟩ :=
      exists_itemTexts_pretty level fun x hx => ⟨n, x, (spells_printed (h x hx)).2 (level + 1)⟩
    exact ⟨[], t, _, ht, blanks_nil, .behind (blanks_newLine _) (.indented (level + 1)), htexts⟩
  | @behind ws' f hws' _ ih =>
    obtain ⟨ws, t, g, ht, hws, hg, htexts⟩ := ih
    refine ⟨ws' ++ ws, t, g, ?_, hws'.append hws, hg, htexts⟩
    rw [List.append_assoc, ← ht]

/-- an object as it is printed -/
theorem Prints.object (hf : Prints f) {ms : List (String × Json)} (h : ∀ m ∈ ms, Lossless n m.2) :
    ∃ ws t g, f (.object ms) = ws ++ '{' :: t ∧ Blanks ws ∧ Prints g ∧
      MemberTexts true t (ms.map fun m => (m.1, g m.2)) := by
  induction hf with
  | compact =>
    obtain ⟨t, ht, htexts⟩ := exists_memberTexts_chars fun m hm => ⟨n, m.2, (spells_printed (h m hm)).1⟩
    exact ⟨[], t, _, ht, blanks_nil, .compact, htexts⟩
  | indented level =>
    obtain ⟨t, ht, htexts⟩ :=
      exists_memberTexts_pretty level fun m hm => ⟨n, m.2, (spells_printed (h m hm)).2 (level + 1)⟩
    have hblank : Blanks [' '] := blanks_nil.cons (by decide)
    exact ⟨[], t, _, ht, blanks_nil, .behind hblank (.indented (level + 1)), htexts⟩
  | @behind ws' f hws' _ ih =>
    obtain ⟨ws, t, g, ht, hws, hg, htexts⟩ := ih
    refine ⟨ws' ++ ws, t, g, ?_, hws'.append hws, hg, htexts⟩
    rw [List.append_assoc, ← ht]

end

/-! ## No control characters -/

/-- no character of the text is a control below U+0020 -/
def Printable (cs : List Char) : Prop := ∀ c ∈ cs, 32 ≤ c.toNat

@[simp] theorem printable_nil : Printable [] := fun _ h => absurd h List.not_mem_nil

@[simp] theorem printable_cons {c : Char} {cs : List Char} : Printable (c :: cs) ↔ 32 ≤ c.toNat ∧ Printable cs :=
  List.forall_mem_cons

@[simp] theorem printable_append {as bs : List Char} : Printable (as ++ bs) ↔ Printable as ∧ Printable bs :=
  List.forall_mem_append

theorem printable_flatMap {α : Type} {f : α → List Char} {xs : List α} (h : ∀ x ∈ xs, Printable (f x)) :
    Printable (xs.flatMap f) := by
  intro c hc
  obtain ⟨x, hx, hc⟩ := List.mem_flatMap.1 hc
  exact h x hx c hc

theorem printable_digits (n : Nat) : Printable (Digits.ofNat n) := by
  intro c hc
  have hd : c.isDigit = true := Nat.isDigit_of_mem_toDigits (by decide) (by decide) hc
  simp only [Char.isDigit, Bool.and_eq_true, decide_eq_true_eq, ge_iff_le] at hd
  have h48 : 48 ≤ c.toNat := hd.1
  omega

theorem printable_zeros (n : Nat) : Printable (List.replicate n '0') := by
  intro c hc
  rw [List.eq_of_mem_replicate hc]
  decide

theorem printable_sign (b : Bool) : Printable (Binary64.sign b) := by cases b <;> simp [Binary64.sign]

theorem printable_positional {ds : List Char} (h : Printable ds) (e : Int) : Printable (Binary64.positional ds e) := by
  have htake : ∀ k, Printable (ds.take k) := fun k c hc => h c (List.mem_of_mem_take hc)
  have hdrop : ∀ k, Printable (ds.drop k) := fun k c hc => h c (List.mem_of_mem_drop hc)
  unfold Binary64.positional
  dsimp only
  split_ifs <;> simp [h, htake, hdrop, printable_zeros]

theorem printable_scientific {ds : List Char} (h : Printable ds) (e : Int) : Printable (Binary64.scientific ds e) := by
  unfold Binary64.scientific
  dsimp only
  rw [printable_append, printable_cons, printable_cons]
  refine ⟨?_, by decide, by split_ifs <;> decide, printable_digits _⟩
  split
  · exact h
  · simpa using h
  · exact printable_nil

theorem printable_dataText (x : Binary64) : Printable (Binary64.dataText x).toList := by
  unfold Binary64.dataText
  split
  · simp
  · simp
  · dsimp only
    split_ifs <;>
      simp [printable_sign, printable_positional, printable_scientific, printable_digits]

theorem printable_numberText (x : Number) : Printable (numberText x) := by
  cases x with
  | int i =>
    show Printable (intText i)
    unfold intText
    split_ifs <;> simp [printable_digits]
  | float x => exact printable_dataText x

theorem printable_escapeChar (c : Char) : Printable (escapeChar c) := by
  have hhex : ∀ d < 16, 32 ≤ (hexDigit d).toNat := by decide
  unfold escapeChar
  split_ifs with _ _ _ _ _ _ _ hc
  all_goals try simp
  · exact ⟨hhex _ (by omega), hhex _ (by omega)⟩
  · omega

theorem printable_quote (s : List Char) : Printable (quote s) := by
  have hbody : Printable (s.flatMap escapeChar) := printable_flatMap fun c _ => printable_escapeChar c
  simp [quote, hbody]

/-- **Compact text has no control characters.** -/
theorem printable_chars (v : Json) : Printable (chars v) := by
  induction v using tree_induction with
  | null => simp [chars]
  | bool b => cases b <;> simp [chars]
  | number x => exact printable_numberText x
  | string s => exact printable_quote s.toList
  | array xs ih =>
    have hitems : Printable (itemsChars xs) := by
      cases xs with
      | nil => exact printable_nil
      | cons x xs =>
        obtain ⟨hx, hxs⟩ := List.forall_mem_cons.1 ih
        have hrest : Printable (xs.flatMap fun y => ',' :: chars y) :=
          printable_flatMap fun y hy => printable_cons.2 ⟨by decide, hxs y hy⟩
        rw [itemsChars_cons]
        exact printable_append.2 ⟨hx, hrest⟩
    simp [chars, hitems]
  | object ms ih =>
    have hmember : ∀ m ∈ ms, Printable (memberChars m) := fun m hm => by
      simp [memberChars, printable_quote, ih m hm]
    have hmembers : Printable (membersChars ms) := by
      cases ms with
      | nil => exact printable_nil
      | cons m ms =>
        obtain ⟨hm, hms⟩ := List.forall_mem_cons.1 hmember
        have hrest : Printable (ms.flatMap fun l => ',' :: memberChars l) :=
          printable_flatMap fun l hl => printable_cons.2 ⟨by decide, hms l hl⟩
        rw [membersChars_cons]
        exact printable_append.2 ⟨hm, hrest⟩
    simp [chars, hmembers]

end CommentDigest.Json
