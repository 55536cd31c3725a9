/-
Settings in a JSON text are read field by field.

An object may have the fields in any order and may leave some of them out, and it may have other members beside them,
each with a text of any value. It may be laid out in any way. What the text of a field spells is what the field holds in
the end, and a field that is not there keeps its default. An array has the values of all fields in order.

- `Kind.Spelled`: a text spells a value of a kind; `Kind.reads_of_spelled`: it is read as the value
- `Shows`: of the members of an object, those that are called like a field spell what settings hold in the field
- `reads_object`, `reads_array`: what an object and an array are read as
-/
import CommentDigest.Proofs.Json.Printed
import CommentDigest.Proofs.Json.Skipping
import CommentDigest.Proofs.Json.Typed
import CommentDigest.Proofs.Settings.Json
import CommentDigest.Settings.Reader

namespace CommentDigest

open Json Json.Read

/-! ## Headers -/

namespace HeaderTemplate

/-- the texts of the members of a header: its name and its value, once each and in any order, and any others -/
structure Shows (h : HeaderTemplate) (ts : List (String × List Char)) : Prop where
  name : ∀ p ∈ ts, p.1 = "key" → ∃ n, Spells n p.2 (.value (.string h.name))
  value : ∀ p ∈ ts, p.1 = "value" → ∃ n, Spells n p.2 (.value (.string h.value))
  nameOnce : (Assoc.names ts).count "key" = 1
  valueOnce : (Assoc.names ts).count "value" = 1

/-- the text is an object that shows the header -/
def Spelled (t : List Char) (h : HeaderTemplate) : Prop :=
  ∃ ws u ts, Blanks ws ∧ t = ws ++ '{' :: u ∧ MemberTexts true u ts ∧ h.Shows ts

theorem read_passesBlanks : PassesBlanks HeaderTemplate.read := by
  intro cs
  unfold HeaderTemplate.read
  rw [skipBlanks_skipBlanks]

/-- a part of a header has been read already, or it stands once in the rest of the text -/
def Awaits (found : Option String) (s : String) (left : Nat) : Prop := found = none ∧ left = 1 ∨ found = some s ∧ left = 0

theorem Awaits.here {found : Option String} {s : String} {left : Nat} (h : Awaits found s (left + 1)) :
    found = none ∧ Awaits (some s) s left := by
  rcases h with ⟨hfound, hleft⟩ | ⟨-, hleft⟩
  · exact ⟨hfound, .inr ⟨rfl, Nat.succ.inj hleft⟩⟩
  · cases hleft

theorem Awaits.eq_some {found : Option String} {s : String} (h : Awaits found s 0) : found = some s := by
  rcases h with ⟨-, hleft⟩ | ⟨hfound, -⟩
  · cases hleft
  · exact hfound

theorem ofList_eq_iff {k : List Char} {s : String} : String.ofList k = s ↔ k = s.toList := by
  constructor
  · rintro rfl
    exact String.toList_ofList.symm
  · rintro rfl
    exact String.ofList_toList

theorem readMembers_close {fuel : Nat} {first : Bool} {name value : Option String} {cs r : List Char}
    (h : nextName first cs = .ok (.close r)) :
    readMembers (fuel + 1) first name value cs = place r (ofParts name value) := by
  simp only [readMembers, h]
  rfl

/-- what is done about a member whose name has been read -/
theorem readMembers_more {fuel : Nat} {first : Bool} {name value : Option String} {l b k ws : List Char}
    (hl : Lead first l) (hb : Body b k) (hws : Blanks ws) (r : List Char) :
    readMembers (fuel + 1) first name value (l ++ '"' :: (b ++ '"' :: (ws ++ ':' :: r))) =
      if k = "key".toList then
        if name.isSome then stopAt (duplicateField "key") (afterBrace (ws ++ ':' :: r))
        else (do
          let (s, r) ← Read.text "a string" r
          readMembers fuel false (some s) value r)
      else if k = "value".toList then
        if value.isSome then stopAt (duplicateField "value") (afterBrace (ws ++ ':' :: r))
        else (do
          let (s, r) ← Read.text "a string" r
          readMembers fuel false name (some s) r)
      else (do
        let r ← skipValue r
        readMembers fuel false name value r) := by
  simp only [readMembers, nextName_lead hl]
  show (stringBody _ >>= _) = _
  rw [stringBody_of_body hb]
  show (if k = "key".toList then _ else _) = _
  simp only [colon_blanks hws]
  rfl

/-- the name and the value are read wherever they stand among the members -/
theorem readMembers_of_memberTexts {h : HeaderTemplate} {first : Bool} {t : List Char} {ts : List (String × List Char)}
    (ht : MemberTexts first t ts) {name value : Option String}
    (hname : ∀ p ∈ ts, p.1 = "key" → ∃ n, Spells n p.2 (.value (.string h.name)))
    (hvalue : ∀ p ∈ ts, p.1 = "value" → ∃ n, Spells n p.2 (.value (.string h.value)))
    (hn : Awaits name h.name ((Assoc.names ts).count "key")) (hv : Awaits value h.value ((Assoc.names ts).count "value"))
    {fuel : Nat} (hfuel : t.length ≤ fuel) (r : List Char) :
    readMembers fuel first name value (t ++ r) = .ok (h, r) := by
  induction ht generalizing name value fuel with
  | close hws =>
    obtain ⟨f, rfl⟩ := exists_fuel_close hfuel
    rw [readMembers_close (nextName_of_close _ hws r), hn.eq_some, hv.eq_some]
    rfl
  | @member first l b k ws t u ts hl hb hws ht hu ih =>
    obtain ⟨f, rfl, hf⟩ := exists_fuel hfuel
    have hends := hu.ends r
    have hname' := fun p hp => hname p (List.mem_cons_of_mem _ hp)
    have hvalue' := fun p hp => hvalue p (List.mem_cons_of_mem _ hp)
    have hdiffer : "key" ≠ "value" := by decide
    rw [Assoc.names_cons] at hn hv
    rw [member_append, readMembers_more hl hb hws]
    by_cases hkey : String.ofList k = "key"
    · obtain ⟨n, hs⟩ := hname _ List.mem_cons_self hkey
      rw [hkey, List.count_cons_self] at hn
      rw [hkey, List.count_cons_of_ne hdiffer] at hv
      obtain ⟨rfl, hn'⟩ := hn.here
      rw [if_pos (ofList_eq_iff.1 hkey), if_neg (by simp), text_of_spells "a string" hs _ hends]
      exact ih hname' hvalue' hn' hv hf
    rw [if_neg (mt ofList_eq_iff.2 hkey)]
    rw [List.count_cons_of_ne hkey] at hn
    by_cases hval : String.ofList k = "value"
    · obtain ⟨n, hs⟩ := hvalue _ List.mem_cons_self hval
      rw [hval, List.count_cons_self] at hv
      obtain ⟨rfl, hv'⟩ := hv.here
      rw [if_pos (ofList_eq_iff.1 hval), if_neg (by simp), text_of_spells "a string" hs _ hends]
      exact ih hname' hvalue' hn hv' hf
    rw [if_neg (mt ofList_eq_iff.2 hval)]
    rw [List.count_cons_of_ne hval] at hv
    obtain ⟨n, v, hspells⟩ := ht
    rw [skipValue_of_spells hspells hends]
    exact ih hname' hvalue' hn hv hf

/-- an object that shows a header is read as the header -/
theorem reads_of_spelled {t : List Char} {h : HeaderTemplate} (ht : Spelled t h) : ReadsAs HeaderTemplate.read t h := by
  obtain ⟨ws, u, ts, hws, rfl, hmembers, hshows⟩ := ht
  intro r _
  rw [List.append_assoc, List.cons_append, HeaderTemplate.read, skipBlanks_append hws, skipBlanks_cons (by decide)]
  refine readMembers_of_memberTexts hmembers hshows.name hshows.value ?_ ?_ ?_ r
  · exact .inl ⟨rfl, hshows.nameOnce⟩
  · exact .inl ⟨rfl, hshows.valueOnce⟩
  · rw [List.length_append]
    omega

/-- a header whose two parts are spelled where they stand -/
theorem spelled_of_texts {f : Json → List Char} (hf : ∀ s, Spells 0 (f (.string s)) (.value (.string s)))
    {h : HeaderTemplate} {ws u : List Char} (hws : Blanks ws)
    (hu : MemberTexts true u [("key", f (.string h.name)), ("value", f (.string h.value))]) :
    Spelled (ws ++ '{' :: u) h := by
  have hdiffer : "key" ≠ "value" := by decide
  refine ⟨ws, u, _, hws, rfl, hu, ?_, ?_, rfl, rfl⟩
  · intro p hp hkey
    simp only [List.mem_cons, List.not_mem_nil, or_false] at hp
    rcases hp with rfl | rfl
    · exact ⟨0, hf h.name⟩
    · exact absurd hkey hdiffer.symm
  · intro p hp hvalue
    simp only [List.mem_cons, List.not_mem_nil, or_false] at hp
    rcases hp with rfl | rfl
    · exact absurd hvalue hdiffer
    · exact ⟨0, hf h.value⟩

end HeaderTemplate

/-! ## Values -/

namespace Settings

/-- the text spells the value; a list of headers is an array of objects that show them -/
def Kind.Spelled : (k : Kind) → List Char → k.Value → Prop
  | .headers, t, hs =>
    ∃ ws u ts, Blanks ws ∧ t = ws ++ '[' :: u ∧ ItemTexts true u ts ∧ List.Forall₂ HeaderTemplate.Spelled ts hs
  | k, t, a => ∃ n, Spells n t (.value (k.toJson a))

theorem Kind.read_passesBlanks (k : Kind) : PassesBlanks k.read := by
  intro cs
  cases k with
  | text => exact text_passesBlanks _ cs
  | optionalText | optionalPath => exact optionalText_passesBlanks _ cs
  | headers => exact list_passesBlanks _ cs
  | int64 | uint64 | uint32 => simp only [Kind.read, integer_passesBlanks _ cs]

theorem optionalText_of_spells (expected : String) {n : Nat} {t : List Char} {o : Option String}
    (h : Spells n t (.value (optionJson o))) : ReadsAs (Read.optionalText expected) t o := by
  cases o with
  | none => exact optionalText_of_null expected h
  | some s => exact optionalText_of_string expected h

/-- **A text that spells a value of a kind is read as the value.** -/
theorem Kind.reads_of_spelled {k : Kind} {t : List Char} {a : k.Value} (h : k.Spelled t a) : ReadsAs k.read t a := by
  cases k with
  | text =>
    obtain ⟨n, h⟩ := h
    exact text_of_spells _ h
  | optionalText | optionalPath =>
    obtain ⟨n, h⟩ := h
    exact optionalText_of_spells _ h
  | headers =>
    obtain ⟨ws, u, ts, hws, rfl, hitems, hs⟩ := h
    exact list_of_itemTexts HeaderTemplate.read_passesBlanks hws hitems
      (hs.imp fun _ _ => HeaderTemplate.reads_of_spelled)
  | int64 =>
    obtain ⟨n, h⟩ := h
    intro r hr
    show (integer int64Range (t ++ r) >>= _) = _
    rw [integer_of_spells (int64_range a) h r hr]
    exact congrArg (fun i => Except.ok (i, r)) (Int64.ofInt_toInt a)
  | uint64 =>
    obtain ⟨n, h⟩ := h
    intro r hr
    show (integer uint64Range (t ++ r) >>= _) = _
    rw [integer_of_spells (uint64_range a) h r hr]
    exact congrArg (fun i => Except.ok (i, r)) UInt64.ofNat_toNat
  | uint32 =>
    obtain ⟨n, h⟩ := h
    intro r hr
    show (integer uint32Range (t ++ r) >>= _) = _
    rw [integer_of_spells (uint32_range a) h r hr]
    exact congrArg (fun i => Except.ok (i, r)) UInt32.ofNat_toNat

/-! ## Objects -/

/-- the members that are called like a field, once at most, spell what the settings hold in it -/
structure Shows (s : Settings) (ts : List (String × List Char)) : Prop where
  known : ∀ p ∈ ts, ∀ f : Field, f.name = p.1 → f.kind.Spelled p.2 (s.get f)
  once : ∀ f : Field, (Assoc.names ts).count f.name ≤ 1

theorem Shows.tail {s : Settings} {p : String × List Char} {ts : List (String × List Char)} (h : s.Shows (p :: ts)) :
    s.Shows ts where
  known q hq := h.known q (List.mem_cons_of_mem p hq)
  once f := (List.count_le_count_cons ..).trans (h.once f)

theorem Shows.notMem_tail {s : Settings} {p : String × List Char} {ts : List (String × List Char)}
    (h : s.Shows (p :: ts)) {f : Field} (hname : f.name = p.1) : f.name ∉ Assoc.names ts := by
  have hcount := h.once f
  rw [Assoc.names_cons, ← hname, List.count_cons_self] at hcount
  exact List.count_eq_zero.1 (by omega)

theorem readMembers_close {fuel : Nat} {first : Bool} {seen : List Field} {s : Settings} {cs r : List Char}
    (h : nextName first cs = .ok (.close r)) : readMembers (fuel + 1) first seen s cs = .ok (s, r) := by
  simp only [readMembers, h]
  rfl

/-- what is done about a member whose name has been read -/
theorem readMembers_more {fuel : Nat} {first : Bool} {seen : List Field} {s : Settings} {l b k ws : List Char}
    (hl : Lead first l) (hb : Body b k) (hws : Blanks ws) (r : List Char) :
    readMembers (fuel + 1) first seen s (l ++ '"' :: (b ++ '"' :: (ws ++ ':' :: r))) =
      match Field.ofName? (String.ofList k) with
      | none => (do
        let r ← skipValue r
        readMembers fuel false seen s r)
      | some f =>
        if f ∈ seen then stopAt (duplicateField f.name) (afterBrace (ws ++ ':' :: r))
        else (do
          let (v, r) ← f.kind.read r
          readMembers fuel false (f :: seen) (s.put f v) r) := by
  simp only [readMembers, nextName_lead hl]
  show (stringBody _ >>= _) = _
  rw [stringBody_of_body hb]
  show (match Field.ofName? (String.ofList k) with | none => _ | some f => _) = _
  simp only [colon_blanks hws]
  rfl

/-- **Members are read field by field.** From settings that have been read so far, the fields that the rest of the text
has take what it spells and all others stay. -/
theorem readMembers_of_memberTexts {s : Settings} {first : Bool} {t : List Char} {ts : List (String × List Char)}
    (ht : MemberTexts first t ts) (hs : s.Shows ts) {seen : List Field}
    (hseen : ∀ f ∈ seen, f.name ∉ Assoc.names ts) (sofar : Settings) :
    ∃ s', (∀ fuel r, t.length ≤ fuel → readMembers fuel first seen sofar (t ++ r) = .ok (s', r)) ∧
      ∀ f, s'.get f = if f.name ∈ Assoc.names ts then s.get f else sofar.get f := by
  induction ht generalizing seen sofar with
  | close hws =>
    refine ⟨sofar, fun fuel r hfuel => ?_, fun f => (if_neg List.not_mem_nil).symm⟩
    obtain ⟨g, rfl⟩ := exists_fuel_close hfuel
    exact readMembers_close (nextName_of_close _ hws r)
  | @member first l b k ws t u ts hl hb hws ht hu ih =>
    cases hfield : Field.ofName? (String.ofList k) with
    | none =>
      have hname := ofName?_eq_none_iff.1 hfield
      have hlater : ∀ f ∈ seen, f.name ∉ Assoc.names ts := fun f hf hmem => hseen f hf (List.mem_cons_of_mem _ hmem)
      obtain ⟨s', hread, hget⟩ := ih hs.tail hlater sofar
      refine ⟨s', fun fuel r hfuel => ?_, fun f => ?_⟩
      · obtain ⟨g, rfl, hg⟩ := exists_fuel hfuel
        obtain ⟨n, v, hv⟩ := ht
        rw [member_append, readMembers_more hl hb hws, hfield]
        show (skipValue _ >>= _) = _
        rw [skipValue_of_spells hv (hu.ends r)]
        exact hread g r hg
      · rw [hget, Assoc.names_cons]
        simp only [List.mem_cons, hname f, false_or]
    | some f =>
      have hname := ofName?_eq_some_iff.1 hfield
      have hvalue := Kind.reads_of_spelled (hs.known _ List.mem_cons_self f hname)
      have honce := hs.notMem_tail hname
      have hhere : f.name ∈ Assoc.names ((String.ofList k, t) :: ts) := hname ▸ List.mem_cons_self
      have hlater : ∀ g ∈ f :: seen, g.name ∉ Assoc.names ts := by
        intro g hg
        rcases List.mem_cons.1 hg with rfl | hg
        · exact honce
        · exact fun hmem => hseen g hg (List.mem_cons_of_mem _ hmem)
      obtain ⟨s', hread, hget⟩ := ih hs.tail hlater (sofar.put f (s.get f))
      refine ⟨s', fun fuel r hfuel => ?_, fun g => ?_⟩
      · obtain ⟨m, rfl, hm⟩ := exists_fuel hfuel
        rw [member_append, readMembers_more hl hb hws, hfield]
        show (if f ∈ seen then _ else _) = _
        rw [if_neg fun hf => hseen f hf hhere, hvalue _ (hu.ends r)]
        exact hread m r hm
      · rw [hget]
        by_cases hg : g = f
        · subst hg
          rw [if_neg honce, if_pos hhere, get_put]
        · have hne : g.name ≠ String.ofList k := fun e => hg (name_injective (e.trans hname.symm))
          simp only [Assoc.names_cons, List.mem_cons, hne, false_or, get_put_of_ne _ hg]

/-- **An object of some of the fields.** -/
theorem reads_object {s : Settings} {ws t : List Char} {ts : List (String × List Char)} (hws : Blanks ws)
    (ht : MemberTexts true t ts) (hs : s.Shows ts) :
    ∃ s', ReadsAs Settings.read (ws ++ '{' :: t) s' ∧
      ∀ f, s'.get f = if f.name ∈ Assoc.names ts then s.get f else (ofPreset .openai).get f := by
  obtain ⟨s', hread, hget⟩ := readMembers_of_memberTexts ht hs (fun _ hf => absurd hf List.not_mem_nil) default
  refine ⟨s', fun r _ => ?_, hget⟩
  rw [List.append_assoc, List.cons_append, Settings.read, skipBlanks_append hws, skipBlanks_cons (by decide)]
  refine hread _ r ?_
  rw [List.length_append]
  omega

/-! ## Arrays -/

/-- the values of the fields of a list, one after another -/
theorem readItems_of_itemTexts {s : Settings} {first : Bool} {t : List Char} {ts : List (List Char)}
    (ht : ItemTexts first t ts) {fields : List Field}
    (hs : List.Forall₂ (fun t f => f.kind.Spelled t (s.get f)) ts fields) (sofar : Settings) :
    ∃ s', (∀ r, readItems first fields sofar (t ++ r) = .ok (s', r)) ∧
      ∀ f, s'.get f = if f ∈ fields then s.get f else sofar.get f := by
  induction ht generalizing fields sofar with
  | @close first ws hws =>
    cases hs
    refine ⟨sofar, fun r => ?_, fun f => (if_neg List.not_mem_nil).symm⟩
    have hend : endList (ws ++ [']'] ++ r) = .ok r := by
      rw [List.append_assoc, endList, skipBlanks_append hws, List.singleton_append, skipBlanks_cons (by decide)]
      rfl
    rw [readItems, hend]
    rfl
  | @item first l t u ts hl ht hu ih =>
    cases hs with
    | @cons _ f _ fields hf hfields =>
      obtain ⟨s', hread, hget⟩ := ih hfields (sofar.put f (s.get f))
      refine ⟨s', fun r => ?_, fun g => ?_⟩
      · have hvalue := Kind.reads_of_spelled hf _ (hu.ends r)
        rw [← Kind.read_passesBlanks] at hvalue
        rw [List.append_assoc, List.append_assoc, readItems, nextItem_lead hl ht]
        show (f.kind.read _ >>= _) = _
        rw [hvalue]
        exact hread r
      · rw [hget]
        by_cases hg : g = f
        · subst hg
          simp [get_put]
        · simp only [List.mem_cons, hg, false_or, get_put_of_ne _ hg]

/-- **An array of the values of all fields.** -/
theorem reads_array {s : Settings} {ws t : List Char} {ts : List (List Char)} (hws : Blanks ws)
    (ht : ItemTexts true t ts) (hs : List.Forall₂ (fun t f => f.kind.Spelled t (s.get f)) ts Field.all) :
    ReadsAs Settings.read (ws ++ '[' :: t) s := by
  obtain ⟨s', hread, hget⟩ := readItems_of_itemTexts ht hs default
  obtain rfl : s' = s := ext_get fun f => (hget f).trans (if_pos (mem_all f))
  intro r _
  rw [List.append_assoc, List.cons_append, Settings.read, skipBlanks_append hws, skipBlanks_cons (by decide)]
  exact hread r

/-- a whole document -/
theorem parse_of_reads {text : String} {t ws : List Char} {s : Settings} (htext : text.toList = t ++ ws)
    (hws : Blanks ws) (h : ReadsAs Settings.read t s) : Settings.parse text = .ok s := by
  have hend : atEnd ws = .ok () := by
    rw [atEnd, show skipBlanks ws = [] from List.dropWhile_eq_nil_iff.2 hws]
  simp only [Settings.parse, htext, h ws (ends_of_blanks hws), bind, Except.bind, hend]
  rfl

end Settings

end CommentDigest
