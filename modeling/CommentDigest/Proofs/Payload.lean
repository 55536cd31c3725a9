/-
Filling a payload template and reading it, in either order.

A payload template is JSON text with placeholders in its strings. It can be filled in as text and then be read, or be
read and then have its strings filled in. Both give the same tree when the template has no backslash, so that its
literals spell themselves: every placeholder then lies within one literal, and the prompt put there is read as the text
that it is written for. A name with a placeholder in it would be filled too, so names must have none.

- `Filled`: what filling does to a part of a document
- `filled_of_spells`: filling the text of a part spells the filled part, whatever stands behind it
- `fillPayload_of_body`: a payload template filled in with a prompt that is written as a literal
- `fillPayload_eq_mapStrings`: the same of a prompt that reads as a string between quotes
-/
import CommentDigest.Proofs.Json.Reading
import CommentDigest.Proofs.Json.Tree
import CommentDigest.Proofs.Template.Named
import CommentDigest.Request
import Mathlib.Data.List.Forall2

namespace CommentDigest

open Json Template

/-! ## Trees without their texts -/

namespace Json

/-- the tree with every string leaf emptied -/
def shape (v : Json) : Json := v.mapStrings fun _ => ""

theorem mapStrings_mapStrings (f g : String → String) (v : Json) :
    (v.mapStrings f).mapStrings g = v.mapStrings fun s => g (f s) := by
  induction v using tree_induction with
  | null | bool | number | string => simp only [mapStrings]
  | array xs ih =>
    simp only [mapStrings, mapStringsItems_eq_map, List.map_map]
    exact congrArg _ (List.map_congr_left fun x hx => ih x hx)
  | object ms ih =>
    simp only [mapStrings, mapStringsMembers_eq_map, List.map_map]
    refine congrArg _ (List.map_congr_left fun m hm => ?_)
    exact congrArg (Prod.mk m.1) (ih m hm)

/-- mapping string leaves changes nothing else -/
theorem shape_mapStrings (f : String → String) (v : Json) : (v.mapStrings f).shape = v.shape :=
  mapStrings_mapStrings f _ v

/-! ## Names without placeholders -/

/-- no name of an object in the tree has a named placeholder in it -/
def FreeNames (v : Json) : Prop := EveryObject (fun ms => ∀ k ∈ Assoc.names ms, ∀ i p, ¬ Occurs .named k.toList i p) v

end Json

/-! ## Filled parts -/

/-- a text with its placeholders filled in -/
def fillText (g : String → Option String) (s : String) : String := Template.fill s (.named g) .empty

theorem fillText_ofList (g : String → Option String) (cs : List Char) :
    fillText g (String.ofList cs) = String.ofList (fillNamed g cs) := by
  rw [fillText, Template.fill, String.toList_ofList]
  rfl

theorem fillText_of_not_occurs (g : String → Option String) {s : String} (h : ∀ i p, ¬ Occurs .named s.toList i p) :
    fillText g s = s :=
  fill_of_not_occurs g h

/-- when the names of a value have no placeholders, its filling is the value with its strings filled -/
def FillsTo (g : String → Option String) (v v' : Json) : Prop := FreeNames v → v' = v.mapStrings (fillText g)

/-- what filling makes of a part; names are filled like any other text -/
inductive Filled (g : String → Option String) : Part → Part → Prop
  | value {v v' : Json} : FillsTo g v v' → Filled g (.value v) (.value v')
  | items {first : Bool} {vs vs' : List Json} : List.Forall₂ (FillsTo g) vs vs' →
      Filled g (.items first vs) (.items first vs')
  | member {k : String} {v v' : Json} : FillsTo g v v' → Filled g (.member k v) (.member (fillText g k) v')
  | members {first : Bool} {ms ms' : List (String × Json)} :
      List.Forall₂ (fun m m' => m'.1 = fillText g m.1 ∧ FillsTo g m.2 m'.2) ms ms' →
      Filled g (.members first ms) (.members first ms')

theorem eq_map_of_fillsTo {g : String → Option String} {vs vs' : List Json} (h : List.Forall₂ (FillsTo g) vs vs')
    (hfree : ∀ v ∈ vs, FreeNames v) : vs' = vs.map (mapStrings (fillText g)) := by
  induction h with
  | nil => rfl
  | cons hv _ ih =>
    obtain ⟨hhead, htail⟩ := List.forall_mem_cons.1 hfree
    rw [List.map_cons, hv hhead, ih htail]

theorem eq_map_of_related {g : String → Option String} {ms ms' : List (String × Json)}
    (h : Assoc.Related (FillsTo g) ms ms') (hfree : ∀ m ∈ ms, FreeNames m.2) :
    ms' = ms.map fun m => (m.1, mapStrings (fillText g) m.2) := by
  induction h with
  | nil => rfl
  | @cons m m' _ _ hm _ ih =>
    obtain ⟨hhead, htail⟩ := List.forall_mem_cons.1 hfree
    have heq : m' = (m.1, mapStrings (fillText g) m.2) := Prod.ext hm.1.symm (hm.2 hhead)
    rw [List.map_cons, heq, ih htail]

/-- names without placeholders are the same after filling -/
theorem related_of_filled {g : String → Option String} {ms ms' : List (String × Json)}
    (h : List.Forall₂ (fun m m' => m'.1 = fillText g m.1 ∧ FillsTo g m.2 m'.2) ms ms')
    (hnames : ∀ k ∈ Assoc.names ms, ∀ i p, ¬ Occurs .named k.toList i p) : Assoc.Related (FillsTo g) ms ms' := by
  induction h with
  | nil => exact .nil
  | cons hm _ ih =>
    obtain ⟨hhead, htail⟩ := List.forall_mem_cons.1 hnames
    refine .cons ⟨?_, hm.2⟩ (ih htail)
    rw [hm.1, fillText_of_not_occurs g hhead]

theorem fillsTo_array {g : String → Option String} {vs vs' : List Json} (h : List.Forall₂ (FillsTo g) vs vs') :
    FillsTo g (.array vs) (.array vs') := by
  intro hfree
  rw [mapStrings, mapStringsItems_eq_map, eq_map_of_fillsTo h (everyObject_array.1 hfree)]

/-- a repeated name is filled in the same way each time, so the same members are kept -/
theorem fillsTo_object {g : String → Option String} {ms ms' : List (String × Json)}
    (h : List.Forall₂ (fun m m' => m'.1 = fillText g m.1 ∧ FillsTo g m.2 m'.2) ms ms') :
    FillsTo g (.object (Members.ofList ms)) (.object (Members.ofList ms')) := by
  intro hfree
  have hnames : ∀ k ∈ Assoc.names ms, ∀ i p, ¬ Occurs .named k.toList i p :=
    fun k hk => hfree _ .refl k (Assoc.mem_names_collect.2 hk)
  have hrelated : Assoc.Related (FillsTo g) (Members.ofList ms) (Members.ofList ms') :=
    (related_of_filled h hnames).collect _
  rw [mapStrings, mapStringsMembers_eq_map, eq_map_of_related hrelated (everyObject_object.1 hfree).2]

/-! ## Filled texts -/

/-- filling the text of a part spells the filled part, and what stands behind it is filled on its own -/
def FillsAs (f g : String → Option String) (n : Nat) (t : List Char) (p : Part) : Prop :=
  ∃ t' p', Spells n t' p' ∧ Filled g p p' ∧ FillsPiece f t t'

variable {f g : String → Option String}

/-- a part that keeps its text -/
theorem fillsAs_self {n : Nat} {t : List Char} {p : Part} (h : Spells n t p) (hp : Filled g p p) (ht : '{' ∉ t) :
    FillsAs f g n t p :=
  ⟨t, p, h, hp, fillsPiece_self ht⟩

theorem brace_notMem_of_isNumeralChar {t : List Char} (h : ∀ c ∈ t, isNumeralChar c = true) : '{' ∉ t :=
  fun hm => absurd (h _ hm) (by decide)

theorem brace_notMem_of_isBlank {ws : List Char} (h : ∀ c ∈ ws, Read.isBlank c = true) : '{' ∉ ws :=
  fun hm => absurd (h _ hm) (by decide)

/-- no dollar sign stands behind the brace of an object -/
theorem head?_members_ne {n : Nat} {t : List Char} {ms : List (String × Json)} (h : Spells n t (.members true ms))
    (r : List Char) : (t ++ r).head? ≠ some '$' := by
  intro hd
  obtain ⟨cs, hcs⟩ := List.head?_eq_some_iff.1 hd
  obtain ⟨c, w, hw, hc⟩ := h.begins
  have hskip := hw r
  rw [hcs, skipBlanks_cons (by decide)] at hskip
  rw [← (List.cons.inj hskip).1] at hc
  rcases hc with hc | hc <;> exact absurd hc (by decide)

/-- **Filling goes through the grammar.** By induction on the spelling of a part without backslashes. -/
theorem filled_of_spells (hfg : WrittenAs f g) {n : Nat} {t : List Char} {p : Part} (h : Spells n t p) (hb : '\\' ∉ t) :
    FillsAs f g n t p := by
  induction h with
  | @blank n c t p hc _ ih =>
    obtain ⟨t', p', ht', hp', hfill⟩ := ih fun hm => hb (List.mem_cons_of_mem c hm)
    have hne : c ≠ '{' := fun e => absurd hc (by rw [e]; decide)
    exact ⟨c :: t', p', .blank hc ht', hp', hfill.cons hne⟩
  | null => exact fillsAs_self .null (.value fun _ => rfl) (by decide)
  | yes => exact fillsAs_self .yes (.value fun _ => rfl) (by decide)
  | no => exact fillsAs_self .no (.value fun _ => rfl) (by decide)
  | positive hx =>
    exact fillsAs_self (.positive hx) (.value fun _ => rfl) (brace_notMem_of_isNumeralChar hx.chars)
  | negative hx =>
    apply fillsAs_self (.negative hx) (.value fun _ => rfl)
    intro hm
    exact brace_notMem_of_isNumeralChar hx.chars ((List.mem_cons.1 hm).resolve_left (by decide))
  | @string n t s hs =>
    obtain ⟨rfl, hplain⟩ := hs.eq_of_no_backslash fun hm => hb (by simp [hm])
    have hvalue : FillsTo g (.string (String.ofList t)) (.string (String.ofList (fillNamed g t))) := by
      intro _
      rw [mapStrings, fillText_ofList]
    exact ⟨_, _, .string (body_fillNamed hfg hplain), .value hvalue, (fillsPiece_quote t).cons (by decide)⟩
  | @array n t vs _ ih =>
    obtain ⟨t', p', ht', hp', hfill⟩ := ih fun hm => hb (List.mem_cons_of_mem _ hm)
    cases hp' with
    | items hvs => exact ⟨'[' :: t', _, .array ht', .value (fillsTo_array hvs), hfill.cons (by decide)⟩
  | @object n t ms hms ih =>
    obtain ⟨t', p', ht', hp', hfill⟩ := ih fun hm => hb (List.mem_cons_of_mem _ hm)
    cases hp' with
    | members hms' =>
      refine ⟨'{' :: t', _, .object ht', .value (fillsTo_object hms'), fun r => ?_⟩
      rw [List.cons_append, fillNamed_brace f (head?_members_ne hms r), hfill, List.cons_append]
  | noItem => exact fillsAs_self .noItem (.items .nil) (by decide)
  | noMember => exact fillsAs_self .noMember (.members .nil) (by decide)
  | @firstItem n t u v vs _ _ ihv ihvs =>
    obtain ⟨t', p', ht', hp', hfill⟩ := ihv fun hm => hb (List.mem_append_left _ hm)
    obtain ⟨u', q', hu', hq', hfill'⟩ := ihvs fun hm => hb (List.mem_append_right _ hm)
    cases hp' with
    | value hv =>
      cases hq' with
      | items hvs => exact ⟨t' ++ u', _, .firstItem ht' hu', .items (.cons hv hvs), hfill.append hfill'⟩
  | @nextItem n t u v vs _ _ ihv ihvs =>
    obtain ⟨t', p', ht', hp', hfill⟩ := ihv fun hm => hb (List.mem_cons_of_mem _ (List.mem_append_left _ hm))
    obtain ⟨u', q', hu', hq', hfill'⟩ := ihvs fun hm => hb (List.mem_cons_of_mem _ (List.mem_append_right _ hm))
    cases hp' with
    | value hv =>
      cases hq' with
      | items hvs =>
        have hpiece := (hfill.append hfill').cons (show ',' ≠ '{' by decide)
        exact ⟨',' :: (t' ++ u'), _, .nextItem ht' hu', .items (.cons hv hvs), hpiece⟩
  | @member n t ws u k v hk hws _ ih =>
    obtain ⟨rfl, hplain⟩ := hk.eq_of_no_backslash fun hm => hb (by simp [hm])
    obtain ⟨u', p', hu', hp', hfill⟩ := ih fun hm => hb (by simp [hm])
    cases hp' with
    | value hv =>
      have hmember := Spells.member (body_fillNamed hfg hplain) hws hu'
      rw [← fillText_ofList] at hmember
      have hname : FillsPiece f ('"' :: (t ++ ['"'])) ('"' :: (fillNamed f t ++ ['"'])) :=
        (fillsPiece_quote t).cons (by decide)
      have hvalue : FillsPiece f (ws ++ ':' :: u) (ws ++ ':' :: u') :=
        (fillsPiece_self (brace_notMem_of_isBlank hws)).append (hfill.cons (by decide))
      exact ⟨_, _, hmember, .member hv, by simpa using hname.append hvalue⟩
  | @firstMember n t u k v ms _ _ ihm ihms =>
    obtain ⟨t', p', ht', hp', hfill⟩ := ihm fun hm => hb (List.mem_append_left _ hm)
    obtain ⟨u', q', hu', hq', hfill'⟩ := ihms fun hm => hb (List.mem_append_right _ hm)
    cases hp' with
    | member hv =>
      cases hq' with
      | members hms => exact ⟨t' ++ u', _, .firstMember ht' hu', .members (.cons ⟨rfl, hv⟩ hms), hfill.append hfill'⟩
  | @nextMember n t u k v ms _ _ ihm ihms =>
    obtain ⟨t', p', ht', hp', hfill⟩ := ihm fun hm => hb (List.mem_cons_of_mem _ (List.mem_append_left _ hm))
    obtain ⟨u', q', hu', hq', hfill'⟩ := ihms fun hm => hb (List.mem_cons_of_mem _ (List.mem_append_right _ hm))
    cases hp' with
    | member hv =>
      cases hq' with
      | members hms =>
        have hpiece := (hfill.append hfill').cons (show ',' ≠ '{' by decide)
        exact ⟨',' :: (t' ++ u'), _, .nextMember ht' hu', .members (.cons ⟨rfl, hv⟩ hms), hpiece⟩

/-! ## Payloads -/

theorem writtenAs_single (name : String) {prompt decoded : String} (h : Body prompt.toList decoded.toList) :
    WrittenAs (fun n => if n = name then some prompt else none) (fun n => if n = name then some decoded else none) := by
  intro n
  dsimp only
  split_ifs
  · exact .some h
  · exact .none

/-- **A filled payload is read as the filled tree**, when the prompt is written as it stands in a literal. -/
theorem fillPayload_of_body {template prompt decoded : String} {v : Json} (hb : '\\' ∉ template.toList)
    (hparse : Json.parse template = .ok v) (hfree : FreeNames v) (hprompt : Body prompt.toList decoded.toList) :
    fillPayload template prompt =
      .ok (v.mapStrings fun x => Template.fill x (.single "llmPrompt" decoded) .empty) := by
  obtain ⟨t, ws, ht, hspells, hws⟩ := parse_eq_ok_iff.1 hparse
  have hbt : '\\' ∉ t := fun hm => hb (by rw [ht]; exact List.mem_append_left _ hm)
  obtain ⟨t', p', ht', hp', hfill⟩ := filled_of_spells (writtenAs_single "llmPrompt" hprompt) hspells hbt
  cases hp' with
  | @value _ v' hv =>
    have htext : (Template.fill template (.single "llmPrompt" prompt) .empty).toList = t' ++ ws := by
      have hends := fillsPiece_self (f := fun n => if n = "llmPrompt" then some prompt else none)
        (brace_notMem_of_isBlank hws) []
      rw [fillNamed_nil, List.append_nil] at hends
      rw [Template.fill, String.toList_ofList, ht]
      exact (hfill ws).trans (by rw [hends])
    have hread : Json.parse (Template.fill template (.single "llmPrompt" prompt) .empty) = .ok v' :=
      parse_eq_ok_iff.2 ⟨t', ws, htext, ht', hws⟩
    rw [fillPayload, hread, hv hfree]
    rfl

/-- a text that reads as a string between quotes is written as that string -/
theorem body_of_parse_quoted {prompt decoded : String}
    (h : Json.parse ("\"" ++ prompt ++ "\"") = .ok (.string decoded)) : Body prompt.toList decoded.toList := by
  obtain ⟨t, ws, ht, hspells, hws⟩ := parse_eq_ok_iff.1 h
  have hquoted : '"' :: (prompt.toList ++ ['"']) = t ++ ws := by
    rw [← ht]
    simp
  cases hspells with
  | blank hc _ =>
    rw [List.cons_append] at hquoted
    exact absurd hc (by rw [← (List.cons.inj hquoted).1]; decide)
  | @string _ b s hs =>
    rw [String.toList_ofList]
    -- the blanks are none, since the text ends in a quote
    have hnil : ws = [] := by
      rcases List.eq_nil_or_concat ws with rfl | ⟨ws', c, rfl⟩
      · rfl
      · have hlast : ('"' :: prompt.toList) ++ ['"'] = ('"' :: (b ++ ['"']) ++ ws') ++ [c] := by simpa using hquoted
        have hc : '"' = c := List.singleton_inj.1 (List.append_inj_right' hlast rfl)
        exact absurd (hws c (by simp)) (by rw [← hc]; decide)
    rw [hnil, List.append_nil] at hquoted
    rw [List.append_cancel_right (List.cons.inj hquoted).2]
    exact hs

/-- **Filling and reading commute.** For every template without backslashes that is JSON text and has no placeholder in
a name, and every prompt that reads as a string between quotes: the template filled in as text is read as its tree with
that string filled into every string leaf, and the tree keeps its shape. -/
theorem fillPayload_eq_mapStrings {template prompt decoded : String} {v : Json} (hplain : '\\' ∉ template.toList)
    (hparse : Json.parse template = .ok v) (hfree : FreeNames v)
    (hprompt : Json.parse ("\"" ++ prompt ++ "\"") = .ok (.string decoded)) :
    let filled := v.mapStrings fun x => Template.fill x (.single "llmPrompt" decoded) .empty
    fillPayload template prompt = .ok filled ∧ filled.shape = v.shape :=
  ⟨fillPayload_of_body hplain hparse hfree (body_of_parse_quoted hprompt), shape_mapStrings _ v⟩

/-- a prompt with escapes of its own, put into two of three strings; what looks like a placeholder in it is kept, and one
without a value in the template goes -/
theorem fillPayload_eq_mapStrings_escaped :
    let template := "\x7b\"a\": [\"<\x7b$llmPrompt\x7d>\", -1.50, \"\x7b$llmPrompt\"], " ++
      "\"b\": \x7b\"\x7b$\": \"\x7b$x\x7d\x7b$llmPrompt\x7d\"\x7d\x7d"
    let v : Json := .object [("a", .array [.string "<\x7b$llmPrompt\x7d>",
      .number (.float (Binary64.ofDecimal false 15 (-1)).neg), .string "\x7b$llmPrompt"]),
      ("b", .object [("\x7b$", .string "\x7b$x\x7d\x7b$llmPrompt\x7d")])]
    let prompt := "say \\\"\\u0041\\\"\\n\x7b$x\x7d"
    let decoded := "say \"A\"\n\x7b$x\x7d"
    let filled : Json := .object [("a", .array [.string "<say \"A\"\n\x7b$x\x7d>",
      .number (.float (Binary64.ofDecimal false 15 (-1)).neg), .string "\x7b$llmPrompt"]),
      ("b", .object [("\x7b$", .string "say \"A\"\n\x7b$x\x7d")])]
    '\\' ∉ template.toList ∧ Json.parse template = .ok v ∧ FreeNames v ∧
      Json.parse ("\"" ++ prompt ++ "\"") = .ok (.string decoded) ∧
      fillPayload template prompt = .ok filled ∧ filled.shape = v.shape := by
  intro template v prompt decoded filled
  have hplain : '\\' ∉ template.toList := by decide +kernel
  have hparse : Json.parse template = .ok v := by decide +kernel
  have hfree : FreeNames v := by
    simp only [v, FreeNames, everyObject_object, everyObject_array, everyObject_string, everyObject_number,
      Assoc.names, List.map_cons, List.map_nil, List.forall_mem_cons, List.not_mem_nil, false_implies, implies_true, and_true, true_and]
    exact ⟨⟨not_occurs_of_pieces (by decide +kernel), not_occurs_of_pieces (by decide +kernel)⟩,
      not_occurs_of_pieces (by decide +kernel)⟩
  have hprompt : Json.parse ("\"" ++ prompt ++ "\"") = .ok (.string decoded) := by decide +kernel
  have htree : (v.mapStrings fun x => Template.fill x (.single "llmPrompt" decoded) .empty) = filled := by decide +kernel
  exact ⟨hplain, hparse, hfree, hprompt, htree ▸ fillPayload_eq_mapStrings hplain hparse hfree hprompt⟩

end CommentDigest
