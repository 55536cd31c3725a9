/-
Arrays and objects as they are laid out in a text.

The grammar says what an array or an object is. A reader of known fields has to be told where each entry stands too:
`ItemTexts first t ts` says that `t`, up to and with the closing bracket, is the texts `ts` with commas between them, and
`MemberTexts` says the same of members and their names. Blanks may stand around every entry.

- `spells_items_iff`, `spells_members_iff`: the grammar spells exactly what is laid out like this
- `items_of_itemTexts`: a reader of entries reads them one after another
- `itemTexts_first`, `memberTexts_first`: entries that are written one after another
-/
import CommentDigest.Proofs.Assoc
import CommentDigest.Proofs.Json.Reading

namespace CommentDigest.Json

open Read

/-! ## Entries -/

/-- nothing but blanks -/
def Blanks (ws : List Char) : Prop := ∀ c ∈ ws, isBlank c = true

theorem blanks_nil : Blanks [] := fun _ hc => absurd hc List.not_mem_nil

theorem Blanks.cons {c : Char} {ws : List Char} (hc : isBlank c = true) (h : Blanks ws) : Blanks (c :: ws) :=
  List.forall_mem_cons.2 ⟨hc, h⟩

theorem Blanks.append {ws ws' : List Char} (h : Blanks ws) (h' : Blanks ws') : Blanks (ws ++ ws') :=
  List.forall_mem_append.2 ⟨h, h'⟩

/-- the text of some value, at any nesting -/
def IsValue (t : List Char) : Prop := ∃ n v, Spells n t (.value v)

theorem IsValue.blanks {ws t : List Char} (hws : Blanks ws) (h : IsValue t) : IsValue (ws ++ t) := by
  obtain ⟨n, v, hv⟩ := h
  exact ⟨n, v, hv.blanks hws⟩

/-- what stands in front of an entry: blanks, and among them a comma if another entry stands before -/
inductive Lead : (first : Bool) → List Char → Prop
  | first {ws : List Char} : Blanks ws → Lead true ws
  | next {ws ws' : List Char} : Blanks ws → Blanks ws' → Lead false (ws ++ ',' :: ws')

theorem Lead.blank {first : Bool} {l : List Char} {c : Char} (hc : isBlank c = true) (h : Lead first l) :
    Lead first (c :: l) := by
  cases h with
  | first hws => exact .first (hws.cons hc)
  | next hws hws' => exact .next (hws.cons hc) hws'

/-- the text from behind an opening bracket, or from behind an item, and the texts of the items in it -/
inductive ItemTexts : (first : Bool) → List Char → List (List Char) → Prop
  | close {first : Bool} {ws : List Char} : Blanks ws → ItemTexts first (ws ++ [']']) []
  | item {first : Bool} {l t u : List Char} {ts : List (List Char)} : Lead first l → IsValue t →
      ItemTexts false u ts → ItemTexts first (l ++ (t ++ u)) (t :: ts)

/-- the text from behind an opening brace, or from behind a member, and the names and texts of the members in it -/
inductive MemberTexts : (first : Bool) → List Char → List (String × List Char) → Prop
  | close {first : Bool} {ws : List Char} : Blanks ws → MemberTexts first (ws ++ ['}']) []
  | member {first : Bool} {l b k ws t u : List Char} {ts : List (String × List Char)} : Lead first l → Body b k →
      Blanks ws → IsValue t → MemberTexts false u ts →
      MemberTexts first (l ++ '"' :: (b ++ '"' :: (ws ++ ':' :: (t ++ u)))) ((String.ofList k, t) :: ts)

theorem ItemTexts.blank {first : Bool} {t : List Char} {ts : List (List Char)} {c : Char} (hc : isBlank c = true)
    (h : ItemTexts first t ts) : ItemTexts first (c :: t) ts := by
  cases h with
  | close hws => exact .close (hws.cons hc)
  | item hl ht hu => exact .item (hl.blank hc) ht hu

theorem MemberTexts.blank {first : Bool} {t : List Char} {ts : List (String × List Char)} {c : Char}
    (hc : isBlank c = true) (h : MemberTexts first t ts) : MemberTexts first (c :: t) ts := by
  cases h with
  | close hws => exact .close (hws.cons hc)
  | member hl hb hws ht hu => exact .member (hl.blank hc) hb hws ht hu

/-! ## The grammar -/

section

variable {n : Nat} {first : Bool} {l t u : List Char}

theorem spells_item_of_lead {v : Json} {vs : List Json} (hl : Lead first l) (ht : Spells n t (.value v))
    (hu : Spells n u (.items false vs)) : Spells n (l ++ (t ++ u)) (.items first (v :: vs)) := by
  cases hl with
  | first hws => exact (Spells.firstItem ht hu).blanks hws
  | @next ws ws' hws hws' =>
    have h := (Spells.nextItem (ht.blanks hws') hu).blanks hws
    simpa using h

theorem spells_member_of_lead {k : String} {v : Json} {ms : List (String × Json)} (hl : Lead first l)
    (ht : Spells n t (.member k v)) (hu : Spells n u (.members false ms)) :
    Spells n (l ++ (t ++ u)) (.members first ((k, v) :: ms)) := by
  cases hl with
  | first hws => exact (Spells.firstMember ht hu).blanks hws
  | @next ws ws' hws hws' =>
    have h := (Spells.nextMember (ht.blanks hws') hu).blanks hws
    simpa using h

/-- **The items of an array** are spelled exactly if they are laid out behind one another, each spelled by its text. -/
theorem spells_items_iff {vs : List Json} :
    Spells n t (.items first vs) ↔
      ∃ ts, ItemTexts first t ts ∧ List.Forall₂ (fun t v => Spells n t (.value v)) ts vs := by
  constructor
  · intro h
    generalize hp : Part.items first vs = p at h
    induction h generalizing first vs with
    | blank hc _ ih =>
      obtain ⟨ts, hts, hvs⟩ := ih hp
      exact ⟨ts, hts.blank hc, hvs⟩
    | noItem =>
      cases hp
      exact ⟨[], .close blanks_nil, .nil⟩
    | firstItem ht _ _ ih =>
      cases hp
      obtain ⟨ts, hts, hvs⟩ := ih rfl
      exact ⟨_ :: ts, .item (.first blanks_nil) ⟨_, _, ht⟩ hts, .cons ht hvs⟩
    | nextItem ht _ _ ih =>
      cases hp
      obtain ⟨ts, hts, hvs⟩ := ih rfl
      exact ⟨_ :: ts, .item (.next blanks_nil blanks_nil) ⟨_, _, ht⟩ hts, .cons ht hvs⟩
    | _ => cases hp
  · rintro ⟨ts, h, hvs⟩
    induction h generalizing vs with
    | close hws =>
      cases hvs
      exact Spells.noItem.blanks hws
    | item hl _ _ ih =>
      cases hvs with
      | cons hv hvs => exact spells_item_of_lead hl hv (ih hvs)

theorem exists_memberText {k : String} {v : Json} (h : Spells n t (.member k v)) :
    ∃ ws b s ws' u, Blanks ws ∧ Body b s ∧ Blanks ws' ∧ Spells n u (.value v) ∧ k = String.ofList s ∧
      t = ws ++ '"' :: (b ++ '"' :: (ws' ++ ':' :: u)) := by
  generalize hp : Part.member k v = p at h
  induction h with
  | blank hc _ ih =>
    obtain ⟨ws, b, s, ws', u, hws, hb, hws', hu, hk, rfl⟩ := ih hp
    exact ⟨_ :: ws, b, s, ws', u, hws.cons hc, hb, hws', hu, hk, rfl⟩
  | member hb hws hu _ =>
    cases hp
    exact ⟨[], _, _, _, _, blanks_nil, hb, hws, hu, rfl, rfl⟩
  | _ => cases hp

/-- **The members of an object** are spelled exactly if they are laid out behind one another, each value spelled by its
text. -/
theorem spells_members_iff {ms : List (String × Json)} :
    Spells n t (.members first ms) ↔
      ∃ ts, MemberTexts first t ts ∧ Assoc.Related (fun t v => Spells n t (.value v)) ts ms := by
  constructor
  · intro h
    generalize hp : Part.members first ms = p at h
    induction h generalizing first ms with
    | blank hc _ ih =>
      obtain ⟨ts, hts, hms⟩ := ih hp
      exact ⟨ts, hts.blank hc, hms⟩
    | noMember =>
      cases hp
      exact ⟨[], .close blanks_nil, .nil⟩
    | firstMember ht _ _ ih =>
      cases hp
      obtain ⟨ts, hts, hms⟩ := ih rfl
      obtain ⟨ws, b, s, ws', u, hws, hb, hws', hu, rfl, rfl⟩ := exists_memberText ht
      refine ⟨(String.ofList s, u) :: ts, ?_, .cons ⟨rfl, hu⟩ hms⟩
      have h := MemberTexts.member (.first hws) hb hws' ⟨_, _, hu⟩ hts
      simpa using h
    | nextMember ht _ _ ih =>
      cases hp
      obtain ⟨ts, hts, hms⟩ := ih rfl
      obtain ⟨ws, b, s, ws', u, hws, hb, hws', hu, rfl, rfl⟩ := exists_memberText ht
      refine ⟨(String.ofList s, u) :: ts, ?_, .cons ⟨rfl, hu⟩ hms⟩
      have h := MemberTexts.member (.next blanks_nil hws) hb hws' ⟨_, _, hu⟩ hts
      simpa using h
    | _ => cases hp
  · rintro ⟨ts, h, hms⟩
    induction h generalizing ms with
    | close hws =>
      cases hms
      exact Spells.noMember.blanks hws
    | @member first l b k ws t u ts hl hb hws _ _ ih =>
      cases hms with
      | @cons _ m _ ms hm hms =>
        obtain ⟨name, v⟩ := m
        obtain ⟨rfl, hv⟩ := hm
        have h := spells_member_of_lead hl (Spells.member hb hws hv) (ih hms)
        simpa using h

end

/-! ## Readers -/

theorem ItemTexts.length_pos {first : Bool} {t : List Char} {ts : List (List Char)} (h : ItemTexts first t ts) :
    0 < t.length := by
  induction h with
  | close _ => simp
  | item _ _ _ ih =>
    simp only [List.length_append]
    omega

theorem MemberTexts.length_pos {first : Bool} {t : List Char} {ts : List (String × List Char)}
    (h : MemberTexts first t ts) : 0 < t.length := by
  cases h with
  | close _ => simp
  | member _ _ _ _ _ =>
    rw [List.length_append, List.length_cons]
    omega

/-- no number goes on with a comma or a closing bracket or brace -/
theorem ends_of_blanks_append {ws : List Char} (h : Blanks ws) {c : Char} (hc : isBlank c = false)
    (hn : isNumeralChar c = false) (r : List Char) : Ends (ws ++ c :: r) := by
  have hskip : skipBlanks (ws ++ c :: r) = c :: r := (skipBlanks_append h _).trans (skipBlanks_cons hc r)
  exact ends_of_skipBlanks hskip hn

theorem ends_of_lead {l : List Char} (h : Lead false l) (r : List Char) : Ends (l ++ r) := by
  cases h with
  | next hws _ =>
    rw [List.append_assoc]
    exact ends_of_blanks_append hws (by decide) (by decide) _

theorem ItemTexts.ends {t : List Char} {ts : List (List Char)} (h : ItemTexts false t ts) (r : List Char) :
    Ends (t ++ r) := by
  cases h with
  | close hws =>
    rw [List.append_assoc]
    exact ends_of_blanks_append hws (by decide) (by decide) r
  | item hl _ _ =>
    rw [List.append_assoc]
    exact ends_of_lead hl _

theorem MemberTexts.ends {t : List Char} {ts : List (String × List Char)} (h : MemberTexts false t ts)
    (r : List Char) : Ends (t ++ r) := by
  cases h with
  | close hws =>
    rw [List.append_assoc]
    exact ends_of_blanks_append hws (by decide) (by decide) r
  | member hl _ _ _ _ =>
    rw [List.append_assoc]
    exact ends_of_lead hl _

theorem nextItem_blanks (first : Bool) {ws : List Char} (h : Blanks ws) (cs : List Char) :
    nextItem first (ws ++ cs) = nextItem first cs := by
  rw [nextItem.eq_def, nextItem.eq_def first cs, skipBlanks_append h]

theorem nextName_blanks (first : Bool) {ws : List Char} (h : Blanks ws) (cs : List Char) :
    nextName first (ws ++ cs) = nextName first cs := by
  rw [nextName.eq_def, nextName.eq_def first cs, skipBlanks_append h]

/-- where an item stands, behind what stands in front of it -/
theorem nextItem_lead {first : Bool} {l t : List Char} (hl : Lead first l) (ht : IsValue t) (r : List Char) :
    nextItem first (l ++ (t ++ r)) = .ok (.more (skipBlanks (t ++ r))) := by
  obtain ⟨n, v, hv⟩ := ht
  obtain ⟨c, w, hw, hc⟩ := hv.begins
  cases hl with
  | first hws =>
    rw [nextItem_blanks true hws]
    exact nextItem_first (hw r) hc
  | next hws hws' =>
    have hskip : ∀ cs, skipBlanks (_ ++ cs) = skipBlanks cs := skipBlanks_append hws'
    rw [List.append_assoc, nextItem_blanks false hws, List.cons_append, ← hskip (t ++ r)]
    exact nextItem_comma ((hskip (t ++ r)).trans (hw r)) hc

/-- where a name stands, behind what stands in front of it -/
theorem nextName_lead {first : Bool} {l : List Char} (hl : Lead first l) (r : List Char) :
    nextName first (l ++ '"' :: r) = .ok (.more r) := by
  have hquote : skipBlanks ('"' :: r) = '"' :: r := skipBlanks_cons (by decide) r
  cases hl with
  | first hws =>
    rw [nextName_blanks true hws]
    exact nextName_first hquote
  | next hws hws' =>
    rw [List.append_assoc, nextName_blanks false hws, List.cons_append]
    exact nextName_comma ((skipBlanks_append hws' _).trans hquote)

theorem nextItem_of_close (first : Bool) {ws : List Char} (h : Blanks ws) (r : List Char) :
    nextItem first ((ws ++ [']']) ++ r) = .ok (.close r) := by
  rw [List.append_assoc, nextItem_blanks first h]
  exact nextItem_close first r

theorem nextName_of_close (first : Bool) {ws : List Char} (h : Blanks ws) (r : List Char) :
    nextName first ((ws ++ ['}']) ++ r) = .ok (.close r) := by
  rw [List.append_assoc, nextName_blanks first h]
  exact nextName_close first r

theorem member_append (l b ws t u r : List Char) :
    l ++ '"' :: (b ++ '"' :: (ws ++ ':' :: (t ++ u))) ++ r =
      l ++ '"' :: (b ++ '"' :: (ws ++ ':' :: (t ++ (u ++ r)))) := by
  simp

/-- fuel for all members leaves fuel for the later ones -/
theorem exists_fuel {l b ws t u : List Char} {fuel : Nat}
    (h : (l ++ '"' :: (b ++ '"' :: (ws ++ ':' :: (t ++ u)))).length ≤ fuel) : ∃ f, fuel = f + 1 ∧ u.length ≤ f := by
  simp only [List.length_append, List.length_cons] at h
  exact ⟨fuel - 1, by omega, by omega⟩

theorem exists_fuel_close {ws : List Char} {c : Char} {fuel : Nat} (h : (ws ++ [c]).length ≤ fuel) :
    ∃ f, fuel = f + 1 := by
  rw [List.length_append, List.length_singleton] at h
  exact ⟨fuel - 1, by omega⟩

section

variable {α : Type} {one : List Char → Except Stop (α × List Char)}

/-- blanks in front of a value make no difference to a reader of it -/
def PassesBlanks (one : List Char → Except Stop (α × List Char)) : Prop := ∀ cs, one (skipBlanks cs) = one cs

/-- a reader takes the text for the value, in front of any text that does not go on a number -/
def ReadsAs (one : List Char → Except Stop (α × List Char)) (t : List Char) (a : α) : Prop :=
  ∀ r, Ends r → one (t ++ r) = .ok (a, r)

theorem ReadsAs.blanks (hone : PassesBlanks one) {ws t : List Char} {a : α} (hws : Blanks ws) (h : ReadsAs one t a) :
    ReadsAs one (ws ++ t) a := by
  intro r hr
  rw [List.append_assoc, ← hone, skipBlanks_append hws, hone]
  exact h r hr

/-- **Items are read one after another.** -/
theorem items_of_itemTexts (hone : PassesBlanks one) {first : Bool} {t : List Char} {ts : List (List Char)}
    {as : List α} (h : ItemTexts first t ts) (has : List.Forall₂ (ReadsAs one) ts as) (bound r : List Char)
    (hb : t.length ≤ bound.length) : items one bound first (t ++ r) = .ok (as, r) := by
  induction h generalizing as bound with
  | close hws =>
    cases has
    exact items_close (List.ne_nil_of_length_pos (Nat.lt_of_lt_of_le (by simp) hb)) (nextItem_of_close _ hws r)
  | @item first l t u ts hl ht hu ih =>
    cases has with
    | cons ha has =>
      obtain ⟨n, v, hv⟩ := ht
      have hpos : 0 < (l ++ t).length := by
        have := hv.length_pos
        rw [List.length_append]
        omega
      rw [← List.append_assoc] at hb
      obtain ⟨b, bound', rfl, hb'⟩ := exists_bound hpos hb
      have hfirst := ha (u ++ r) (hu.ends r)
      rw [← hone] at hfirst
      rw [List.append_assoc, List.append_assoc]
      exact items_more (nextItem_lead hl ⟨n, v, hv⟩ (u ++ r)) hfirst (ih has bound' hb')

end

/-! ## Writers -/

section

variable {f : Json → List Char} {lead ws : List Char}

theorem itemTexts_next (hws : Blanks ws) {xs : List Json} (h : ∀ x ∈ xs, IsValue (f x)) :
    ItemTexts false ((xs.flatMap fun x => ',' :: f x) ++ (ws ++ [']'])) (xs.map f) := by
  induction xs with
  | nil => exact .close hws
  | cons x xs ih =>
    obtain ⟨hx, hxs⟩ := List.forall_mem_cons.1 h
    have hitem := ItemTexts.item (.next blanks_nil blanks_nil) hx (ih hxs)
    simpa using hitem

/-- items that are written one after another, each behind its comma -/
theorem itemTexts_first (hws : Blanks ws) {x : Json} {xs : List Json} (h : ∀ y ∈ x :: xs, IsValue (f y)) :
    ItemTexts true (f x ++ (xs.flatMap fun y => ',' :: f y) ++ (ws ++ [']'])) ((x :: xs).map f) := by
  obtain ⟨hx, hxs⟩ := List.forall_mem_cons.1 h
  have hitem := ItemTexts.item (.first blanks_nil) hx (itemTexts_next hws hxs)
  rw [List.append_assoc]
  exact hitem

/-- a member as it is written: blanks, its name, a colon and the text of its value -/
def memberText (lead : List Char) (f : Json → List Char) (m : String × Json) : List Char :=
  lead ++ (quote m.1.toList ++ ':' :: f m.2)

theorem memberTexts_member {first : Bool} {l u : List Char} {m : String × Json} {ts : List (String × List Char)}
    (hl : Lead first l) (hm : IsValue (f m.2)) (hu : MemberTexts false u ts) :
    MemberTexts first (l ++ ((quote m.1.toList ++ ':' :: f m.2) ++ u)) ((m.1, f m.2) :: ts) := by
  have h := MemberTexts.member hl (body_quote m.1.toList) blanks_nil hm hu
  rw [String.ofList_toList] at h
  simpa [quote] using h

theorem memberTexts_next (hlead : Blanks lead) (hws : Blanks ws) {ms : List (String × Json)}
    (h : ∀ m ∈ ms, IsValue (f m.2)) :
    MemberTexts false ((ms.flatMap fun m => ',' :: memberText lead f m) ++ (ws ++ ['}']))
      (ms.map fun m => (m.1, f m.2)) := by
  induction ms with
  | nil => exact .close hws
  | cons m ms ih =>
    obtain ⟨hm, hms⟩ := List.forall_mem_cons.1 h
    have hmember := memberTexts_member (.next blanks_nil hlead) hm (ih hms)
    simpa [memberText] using hmember

/-- members that are written one after another, each behind its comma -/
theorem memberTexts_first (hlead : Blanks lead) (hws : Blanks ws) {m : String × Json} {ms : List (String × Json)}
    (h : ∀ l ∈ m :: ms, IsValue (f l.2)) :
    MemberTexts true (memberText lead f m ++ (ms.flatMap fun l => ',' :: memberText lead f l) ++ (ws ++ ['}']))
      ((m :: ms).map fun l => (l.1, f l.2)) := by
  obtain ⟨hm, hms⟩ := List.forall_mem_cons.1 h
  have hmember := memberTexts_member (.first hlead) hm (memberTexts_next hlead hws hms)
  simpa [memberText] using hmember

end

end CommentDigest.Json
