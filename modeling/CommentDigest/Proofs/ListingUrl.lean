/-
The address of a listing, and what an account name can do to it.

Account names are made of letters, digits, underscores and hyphens, and nothing else is put into an address. So the
other characters of an address are those of the literal text of its template, in front of the first placeholder, between
placeholders and behind the last. Names that differ make addresses that differ: the placeholders stand at the same
places in both, so two addresses of one length have names of one length, and these begin at the same place.

- `checkUsername_eq_ok_iff`: what is taken for an account name
- `toList_fill_name`: the template with the name in it
- `delimiters_withName`, `withName_injective`: what the name cannot change, and what it does
- `prefix_fill`: what stands in front of the first brace stays there
- `listingUrl_unsteered`: all of this
-/
import CommentDigest.Proofs.Session.Calls
import CommentDigest.Proofs.Settings.Check
import CommentDigest.Proofs.Template.Named
import CommentDigest.Proofs.Template.Positional

namespace CommentDigest

open Template

/-! ## Account names -/

/-- the characters of account names -/
def accountChars : List Char := "abcdefghijklmnopqrstuvwxyzABCDEFGHIJKLMNOPQRSTUVWXYZ0123456789_-".toList

/-- an account name: not empty, and of account characters only -/
structure IsAccountName (u : String) : Prop where
  nonempty : u ≠ ""
  chars : ∀ c ∈ u.toList, c ∈ accountChars

theorem toNat_lt_of_isUsernameChar {c : Char} (h : isUsernameChar c = true) : c.toNat < 128 := by
  delta isUsernameChar Char.isAlphanum Char.isAlpha Char.isUpper Char.isLower Char.isDigit at h
  simp only [Bool.or_eq_true, Bool.and_eq_true, decide_eq_true_eq, beq_iff_eq, ge_iff_le] at h
  rcases h with (((⟨-, h⟩ | ⟨-, h⟩) | ⟨-, h⟩) | rfl) | rfl
  · exact Nat.lt_of_le_of_lt (UInt32.le_iff_toNat_le.1 h) (by decide)
  · exact Nat.lt_of_le_of_lt (UInt32.le_iff_toNat_le.1 h) (by decide)
  · exact Nat.lt_of_le_of_lt (UInt32.le_iff_toNat_le.1 h) (by decide)
  · decide
  · decide

theorem isUsernameChar_iff (c : Char) : isUsernameChar c = true ↔ c ∈ accountChars := by
  have hascii : ∀ n < 128, isUsernameChar (Char.ofNat n) = true → Char.ofNat n ∈ accountChars := by decide +kernel
  refine ⟨fun h => ?_, fun h => ?_⟩
  · have hmem := hascii c.toNat (toNat_lt_of_isUsernameChar h)
    rw [Char.ofNat_toNat] at hmem
    exact hmem h
  · have hall : accountChars.all isUsernameChar = true := by decide +kernel
    exact List.all_eq_true.1 hall c h

theorem checkUsername_eq_ok_iff (u : String) : checkUsername u = .ok () ↔ IsAccountName u := by
  have hall : u.toList.all isUsernameChar = true ↔ ∀ c ∈ u.toList, c ∈ accountChars := by
    simp only [List.all_eq_true, isUsernameChar_iff]
  rw [checkUsername]
  split_ifs with hempty hchars
  · exact ⟨fun h => (by cases h), fun h => absurd hempty h.nonempty⟩
  · exact ⟨fun _ => ⟨hempty, hall.1 hchars⟩, fun _ => rfl⟩
  · exact ⟨fun h => (by cases h), fun h => absurd (hall.2 h.chars) hchars⟩

/-- what is refused as a name is refused as input -/
theorem checkUsername_of_not {u : String} (h : ¬ IsAccountName u) :
    ∃ m, checkUsername u = .error (.invalidInput m) := by
  rcases checkUsername_cases u with hok | herror
  · exact absurd ((checkUsername_eq_ok_iff u).1 hok) h
  · exact herror

/-! ## Names in a template -/

/-- the placeholder for an account name -/
def accountPlaceholder : Placeholder := .name "username".toList

/-- the characters of a text that are in no account name -/
def delimiters (cs : List Char) : List Char := cs.filter fun c => c ∉ accountChars

theorem delimiters_append (a b : List Char) : delimiters (a ++ b) = delimiters a ++ delimiters b :=
  List.filter_append a b

theorem delimiters_eq_nil {cs : List Char} (h : ∀ c ∈ cs, c ∈ accountChars) : delimiters cs = [] :=
  List.filter_eq_nil_iff.2 fun c hc => by simp [h c hc]

namespace Template.Cut

/-- what stands for a placeholder when a name is put in -/
def putName (u : List Char) (p : Placeholder) : List Char := if p = accountPlaceholder then u else []

/-- the template with a name at the placeholders for it, and nothing at the others -/
def withName (c : Cut) (u : List Char) : List Char := c.filled fun _ p => putName u p

variable {u v : List Char}

theorem length_putName (u : List Char) (p : Placeholder) :
    (putName u p).length = if p = accountPlaceholder then u.length else 0 := by
  unfold putName
  split_ifs
  · rfl
  · rfl

theorem withName_nil (last u : List Char) : (⟨[], last⟩ : Cut).withName u = last := rfl

theorem withName_cons (q : List Char × Placeholder) (qs : List (List Char × Placeholder)) (last u : List Char) :
    (⟨q :: qs, last⟩ : Cut).withName u = q.1 ++ (putName u q.2 ++ (⟨qs, last⟩ : Cut).withName u) := by
  simp [withName, filled, List.mapIdx_cons]

/-- a name adds nothing to the characters that are in no name -/
theorem delimiters_withName (hu : ∀ x ∈ u, x ∈ accountChars) (c : Cut) :
    delimiters (c.withName u) = delimiters (c.withName []) := by
  obtain ⟨qs, last⟩ := c
  have hput : ∀ p, delimiters (putName u p) = delimiters (putName [] p) := by
    intro p
    unfold putName
    split_ifs
    · exact delimiters_eq_nil hu
    · rfl
  induction qs with
  | nil => rfl
  | cons q qs ih =>
    rw [withName_cons, withName_cons]
    simp only [delimiters_append, hput, ih]

/-- each placeholder for the name adds the length of the name -/
theorem length_withName (c : Cut) (u : List Char) :
    (c.withName u).length =
      (c.withName []).length + (c.pieces.countP fun q => q.2 = accountPlaceholder) * u.length := by
  obtain ⟨qs, last⟩ := c
  induction qs with
  | nil => rw [withName_nil, withName_nil, List.countP_nil, Nat.zero_mul, Nat.add_zero]
  | cons q qs ih =>
    rw [withName_cons, withName_cons, List.countP_cons]
    simp only [List.length_append, length_putName, decide_eq_true_eq, ih]
    split_ifs
    · rw [Nat.add_mul, Nat.one_mul, List.length_nil]
      omega
    · rw [Nat.add_zero]
      omega

/-- names of one length stand at the same places -/
theorem eq_of_withName_eq (hlen : u.length = v.length) {c : Cut} (h : c.withName u = c.withName v)
    {q : List Char × Placeholder} (hq : q ∈ c.pieces) (hp : q.2 = accountPlaceholder) : u = v := by
  obtain ⟨qs, last⟩ := c
  induction qs with
  | nil => cases hq
  | cons q' qs ih =>
    rw [withName_cons, withName_cons] at h
    have hsame : (putName u q'.2).length = (putName v q'.2).length := by rw [length_putName, length_putName, hlen]
    obtain ⟨hput, hrest⟩ := List.append_inj (List.append_cancel_left h) hsame
    rcases List.mem_cons.1 hq with rfl | hq
    · rwa [putName, if_pos hp, putName, if_pos hp] at hput
    · exact ih hrest hq

/-- **The name can be read off.** Where a template has a placeholder for the name, different names make different
texts: each name adds its length as often as it is put in, and names of one length stand at the same places. -/
theorem withName_injective {c : Cut} {q : List Char × Placeholder} (hq : q ∈ c.pieces) (hp : q.2 = accountPlaceholder)
    (h : c.withName u = c.withName v) : u = v := by
  have hcount : 0 < c.pieces.countP fun q => q.2 = accountPlaceholder :=
    List.countP_pos_iff.2 ⟨q, hq, decide_eq_true hp⟩
  have hlen := congrArg List.length h
  rw [length_withName c u, length_withName c v] at hlen
  exact eq_of_withName_eq (Nat.eq_of_mul_eq_mul_left hcount (Nat.add_left_cancel hlen)) h hq hp

/-- a place belongs to a piece -/
theorem exists_piece {i j : Nat} {p : Placeholder} {qs : List (List Char × Placeholder)} (h : (j, p) ∈ places i qs) :
    ∃ q ∈ qs, q.2 = p := by
  induction qs generalizing i with
  | nil => cases h
  | cons q qs ih =>
    rcases List.mem_cons.1 h with h | h
    · exact ⟨q, List.mem_cons_self, (congrArg Prod.snd h).symm⟩
    · obtain ⟨q', hq', hp⟩ := ih h
      exact ⟨q', List.mem_cons_of_mem q hq', hp⟩

end Template.Cut

/-! ## Addresses -/

/-- the name is put in where it is asked for, and nothing anywhere else -/
theorem replacement_account (u : String) {p : Placeholder} (hp : p.Legal .named) (taken : Nat) :
    replacement (.single "username" u) .empty taken p = Cut.putName u.toList p := by
  cases p with
  | name n =>
    have hname : Placeholder.name n = accountPlaceholder ↔ String.ofList n = "username" := by
      rw [accountPlaceholder, Placeholder.name.injEq, ← String.ofList_inj, String.ofList_toList]
    have hvalue : (Values.single "username" u).value? taken (.name n) =
        if String.ofList n = "username" then some u else none := rfl
    rw [replacement_eq, hvalue, Cut.putName]
    split_ifs with hsame hputs hputs
    · rfl
    · exact absurd (hname.2 hsame) hputs
    · exact absurd (hname.1 hputs) hsame
    · exact String.toList_empty
  | index ds => exact absurd hp id
  | next => exact absurd hp id

/-- the template with the name as the one value -/
theorem toList_fill_name {template : String} {c : Cut} (hc : c.Complete .named template.toList) (u : String) :
    (fill template (.single "username" u) .empty).toList = c.withName u.toList := by
  rw [hc.fill_eq (.single "username" u) .empty]
  exact Cut.filled_congr fun k q hq => replacement_account u (hc.legal hq) (c.taken k)

theorem listingUrl_of_isAccountName (template : String) {u : String} (h : IsAccountName u) :
    listingUrl template u = .ok (fill template (.single "username" u) .empty) := by
  rw [listingUrl, (checkUsername_eq_ok_iff u).2 h]
  rfl

theorem listingUrl_of_not (template : String) {u : String} (h : ¬ IsAccountName u) :
    ∃ m, listingUrl template u = .error (.invalidInput m) := by
  obtain ⟨m, hm⟩ := checkUsername_of_not h
  exact ⟨m, by rw [listingUrl, hm]; rfl⟩

/-- only account names have an address -/
theorem isAccountName_of_listingUrl {template u url : String} (h : listingUrl template u = .ok url) :
    IsAccountName u ∧ url = fill template (.single "username" u) .empty := by
  by_cases hu : IsAccountName u
  · rw [listingUrl_of_isAccountName template hu] at h
    exact ⟨hu, (Except.ok.inj h).symm⟩
  · obtain ⟨m, hm⟩ := listingUrl_of_not template hu
    rw [hm] at h
    cases h

/-- text without an opening brace in front of a template stays in front -/
theorem prefix_fill {front : List Char} (hfront : '{' ∉ front) {template : String} (h : front <+: template.toList)
    (f : String → Option String) : front <+: (fill template (.named f) .empty).toList := by
  obtain ⟨rest, hrest⟩ := h
  have hfilled : (fill template (.named f) .empty).toList = front ++ fillNamed f rest := by
    rw [fill, String.toList_ofList, ← hrest]
    exact fillNamed_append_of_notMem f hfront rest
  rw [hfilled]
  exact List.prefix_append front _

/-- what a web address begins with -/
def webSchemes : List String := ["http://", "https://"]

theorem exists_webScheme {s : Settings} (h : s.check = .ok ()) :
    ∃ scheme ∈ webSchemes, scheme.toList <+: s.commentsUrl.toList := by
  have hscheme := ((Settings.flaw?_eq_none_iff s).1 ((Settings.check_eq_ok_iff s).1 h)).1.commentsScheme
  rw [Settings.isHttpUrl, Bool.or_eq_true] at hscheme
  rcases hscheme with hhttp | hhttps
  · exact ⟨"http://", List.mem_cons_self, List.isPrefixOf_iff_prefix.1 hhttp⟩
  · exact ⟨"https://", List.mem_cons_of_mem _ List.mem_cons_self, List.isPrefixOf_iff_prefix.1 hhttps⟩

/-- **Addresses are not steered.** For every template of a listing's address: what is no account name is refused as
input. For an account name the address is the template with the name at every placeholder for it and with nothing at the
others, however the template is written as literal text and all of its placeholders in turn. So any two addresses have
the same characters apart from those of account names, in the same order; where the template has a placeholder for the
name, different names have different addresses; and the address of a template from settings that pass the check begins
with the same `http://` or `https://` as the template. -/
theorem listingUrl_unsteered (template : String) :
    (∀ u, ¬ IsAccountName u → ∃ m, listingUrl template u = .error (.invalidInput m)) ∧
    (∃ c : Cut, c.Complete .named template.toList) ∧
    (∀ c : Cut, c.Complete .named template.toList → ∀ u, IsAccountName u →
      ∃ url, listingUrl template u = .ok url ∧ url.toList = c.withName u.toList) ∧
    (∀ u v url url', listingUrl template u = .ok url → listingUrl template v = .ok url' →
      delimiters url.toList = delimiters url'.toList ∧
      ((∃ i, Occurs .named template.toList i accountPlaceholder) → u ≠ v → url ≠ url')) ∧
    ∀ s : Settings, s.check = .ok () → s.commentsUrl = template → ∀ u url, listingUrl template u = .ok url →
      ∃ scheme ∈ webSchemes, scheme.toList <+: template.toList ∧ scheme.toList <+: url.toList := by
  refine ⟨fun u => listingUrl_of_not template, ⟨_, cutOf_complete _ _⟩, fun c hc u hu => ?_,
    fun u v url url' hu hv => ?_, ?_⟩
  · exact ⟨_, listingUrl_of_isAccountName template hu, toList_fill_name hc u⟩
  · obtain ⟨hname, rfl⟩ := isAccountName_of_listingUrl hu
    obtain ⟨hname', rfl⟩ := isAccountName_of_listingUrl hv
    have hc := cutOf_complete .named template.toList
    rw [toList_fill_name hc, toList_fill_name hc]
    refine ⟨?_, ?_⟩
    · rw [Cut.delimiters_withName hname.chars, Cut.delimiters_withName hname'.chars]
    · rintro ⟨i, hi⟩ hne heq
      obtain ⟨q, hq, hp⟩ := Cut.exists_piece ((hc.occurs_iff i accountPlaceholder).1 hi)
      have hchars := congrArg String.toList heq
      rw [toList_fill_name hc, toList_fill_name hc] at hchars
      exact hne (String.toList_inj.1 (Cut.withName_injective hq hp hchars))
  · rintro s hs rfl u url hu
    obtain ⟨-, rfl⟩ := isAccountName_of_listingUrl hu
    obtain ⟨scheme, hscheme, hpre⟩ := exists_webScheme hs
    have hfront : ∀ scheme ∈ webSchemes, '{' ∉ scheme.toList := by decide
    exact ⟨scheme, hscheme, hpre, prefix_fill (hfront scheme hscheme) hpre _⟩

/-- placeholders that touch each other and the scheme, one of them unknown -/
theorem listingUrl_unsteered_touching :
    let template := "https://\x7b$host\x7d\x7b$username\x7d\x7b$username\x7d?u=\x7b$username\x7d"
    let s := { Settings.ofPreset .ollama with commentsUrl := template }
    let c : Cut := ⟨[("https://".toList, .name "host".toList), ([], accountPlaceholder), ([], accountPlaceholder),
      ("?u=".toList, accountPlaceholder)], []⟩
    ¬ IsAccountName "a/b" ∧ IsAccountName "a-b" ∧ IsAccountName "a_b" ∧ c.Complete .named template.toList ∧
      s.check = .ok () ∧ (∃ m, listingUrl template "a/b" = .error (.invalidInput m)) ∧
      ∃ url url', listingUrl template "a-b" = .ok url ∧ url.toList = "https://a-ba-b?u=a-b".toList ∧
        listingUrl template "a_b" = .ok url' ∧ url'.toList = "https://a_ba_b?u=a_b".toList ∧
        delimiters url.toList = delimiters url'.toList ∧ url ≠ url' ∧
        ∃ scheme ∈ webSchemes, scheme.toList <+: template.toList ∧ scheme.toList <+: url.toList := by
  intro template s c
  have hslash : ¬ IsAccountName "a/b" := fun h => absurd (h.chars '/' (by decide)) (by decide)
  have hname : IsAccountName "a-b" := (checkUsername_eq_ok_iff _).1 (by decide +kernel)
  have hname' : IsAccountName "a_b" := (checkUsername_eq_ok_iff _).1 (by decide +kernel)
  have hcut : cutOf (tokens .named template.toList) = c := by decide +kernel
  have hc := cutOf_complete .named template.toList
  rw [hcut] at hc
  have hcheck : s.check = .ok () := by decide +kernel
  have hoccurs : ∃ i, Occurs .named template.toList i accountPlaceholder :=
    ⟨15, (hc.occurs_iff 15 accountPlaceholder).2 (by decide +kernel)⟩
  obtain ⟨hrefused, -, hput, htwo, hscheme⟩ := listingUrl_unsteered template
  obtain ⟨url, hurl, htext⟩ := hput c hc "a-b" hname
  obtain ⟨url', hurl', htext'⟩ := hput c hc "a_b" hname'
  obtain ⟨hsame, hapart⟩ := htwo _ _ url url' hurl hurl'
  exact ⟨hslash, hname, hname', hc, hcheck, hrefused _ hslash, url, url', hurl, htext, hurl', htext', hsame,
    hapart hoccurs (by decide), hscheme s hcheck rfl _ url hurl⟩

end CommentDigest
