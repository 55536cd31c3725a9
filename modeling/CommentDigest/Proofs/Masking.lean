/-
Secrets masked where a request is shown.

The mask takes the place of the leftmost occurrences of the secret that do not overlap. What is left of a text are the
pieces between them, and the secret is in none of these. A secret that has no character of the mask cannot reach across
a mask either, so it occurs nowhere in the masked text, however it overlaps itself.

- `exists_pieces`: a text taken apart at the leftmost occurrences of a part
- `infix_around`, `Pieces.not_infix_joined`: a part cannot reach across a separator that shares no character with it
- `masks_redacted`: the headers of a request and the headers that are shown of it
- `shown_of_run`: what a dry run prints
- `redacted_hides`: all of this
-/
import CommentDigest.Cli.Run
import CommentDigest.Proofs.Settings.Loading
import Mathlib.Data.List.Forall2
import Mathlib.Data.List.Infix

namespace CommentDigest

/-! ## Texts taken apart -/

/-- a text taken apart: a first piece, and pieces that have a separator in front of them -/
structure Pieces where
  first : List Char
  others : List (List Char)

namespace Pieces

/-- the pieces with a separator between them -/
def joined (p : Pieces) (sep : List Char) : List Char := p.first ++ p.others.flatMap fun l => sep ++ l

/-- a part is in none of the pieces -/
def Without (p : Pieces) (part : List Char) : Prop := ∀ l ∈ p.first :: p.others, ¬ part <:+: l

/-- one more character in front -/
def push (c : Char) (p : Pieces) : Pieces := ⟨c :: p.first, p.others⟩

/-- one more separator in front -/
def cut (p : Pieces) : Pieces := ⟨[], p.first :: p.others⟩

theorem joined_push (c : Char) (p : Pieces) (sep : List Char) : (p.push c).joined sep = c :: p.joined sep := rfl

theorem joined_cut (p : Pieces) (sep : List Char) : p.cut.joined sep = sep ++ p.joined sep := by
  simp [joined, cut]

theorem joined_cons (first l : List Char) (ls : List (List Char)) (sep : List Char) :
    (⟨first, l :: ls⟩ : Pieces).joined sep = first ++ (sep ++ (⟨l, ls⟩ : Pieces).joined sep) := by
  simp [joined]

theorem Without.cut {p : Pieces} {part : List Char} (h : p.Without part) (hpart : part ≠ []) : p.cut.Without part := by
  refine List.forall_mem_cons.2 ⟨fun hnil => hpart (List.infix_nil.1 hnil), h⟩

/-- a character is pushed where the part does not begin -/
theorem Without.push {p : Pieces} {part : List Char} {c : Char} (h : p.Without part)
    (hc : ¬ part <+: c :: p.joined part) : (p.push c).Without part := by
  obtain ⟨hfirst, hothers⟩ := List.forall_mem_cons.1 h
  refine List.forall_mem_cons.2 ⟨fun hin => ?_, hothers⟩
  rcases List.infix_cons_iff.1 hin with hpre | hin
  · exact hc (hpre.trans (List.prefix_append (c :: p.first) _))
  · exact hfirst hin

end Pieces

variable {part : List Char}

theorem replaceText_of_startsWith (by_ : List Char) (hpart : part ≠ []) (cs : List Char) :
    replaceText part by_ (part ++ cs) = by_ ++ replaceText part by_ cs := by
  obtain ⟨c, r, rfl⟩ := List.exists_cons_of_ne_nil hpart
  have hstart : startsWith (c :: r) (c :: (r ++ cs)) = true :=
    List.isPrefixOf_iff_prefix.2 (List.prefix_append (c :: r) cs)
  have hrest : (r ++ cs).drop ((c :: r).length - 1) = cs := List.drop_left
  rw [List.cons_append, replaceText, if_pos ⟨hpart, hstart⟩, hrest]

theorem replaceText_cons_of_not_startsWith (by_ : List Char) {c : Char} {cs : List Char} (h : ¬ part <+: c :: cs) :
    replaceText part by_ (c :: cs) = c :: replaceText part by_ cs := by
  rw [replaceText, if_neg fun hstart => h (List.isPrefixOf_iff_prefix.1 hstart.2)]

/-- **A text taken apart.** There are pieces without the part such that the text is these with the part between them,
and whatever replaces the part stands between the same pieces. -/
theorem exists_pieces (hpart : part ≠ []) (cs : List Char) :
    ∃ p : Pieces, p.Without part ∧ p.joined part = cs ∧ ∀ by_, replaceText part by_ cs = p.joined by_ := by
  induction cs using replaceText.induct part with
  | case1 =>
    refine ⟨⟨[], []⟩, ?_, rfl, fun by_ => by rw [replaceText]; rfl⟩
    exact List.forall_mem_singleton.2 fun hnil => hpart (List.infix_nil.1 hnil)
  | case2 c r hstart ih =>
    -- the scan goes on behind the part
    obtain ⟨rest, hrest⟩ := List.isPrefixOf_iff_prefix.1 hstart.2
    have hdrop : r.drop (part.length - 1) = rest := by
      have hpos := List.length_pos_iff.2 hpart
      have hbehind : (c :: r).drop part.length = rest := by rw [← hrest, List.drop_left]
      rwa [← Nat.sub_add_cancel hpos, List.drop_succ_cons] at hbehind
    rw [hdrop] at ih
    obtain ⟨p, hwithout, htext, hreplaced⟩ := ih
    refine ⟨p.cut, hwithout.cut hpart, ?_, fun by_ => ?_⟩
    · rw [p.joined_cut, htext, hrest]
    · rw [← hrest, replaceText_of_startsWith by_ hpart, hreplaced, p.joined_cut]
  | case3 c r hstart ih =>
    obtain ⟨p, hwithout, htext, hreplaced⟩ := ih
    have hno : ¬ part <+: c :: r := fun hpre => hstart ⟨hpart, List.isPrefixOf_iff_prefix.2 hpre⟩
    refine ⟨p.push c, hwithout.push (htext.symm ▸ hno), ?_, fun by_ => ?_⟩
    · rw [p.joined_push, htext]
    · rw [replaceText_cons_of_not_startsWith by_ hno, hreplaced, p.joined_push]

/-! ## Separators -/

section

variable {sep : List Char}

/-- a part that shares no character with a separator lies on one side of it -/
theorem infix_around (hsep : sep ≠ []) (hapart : ∀ c ∈ sep, c ∉ part) {a b : List Char}
    (h : part <:+: a ++ (sep ++ b)) :
    part <:+: a ∨ part <:+: b := by
  have hnil : ∀ l, (∀ c ∈ l, c ∈ part) → (∀ c ∈ l, c ∈ sep) → l = [] := by
    intro l hl hls
    exact List.eq_nil_iff_forall_not_mem.2 fun c hc => hapart c (hls c hc) (hl c hc)
  rcases List.infix_append_iff.1 h with ha | hrest | ⟨l, l', rfl, hl, hl'⟩
  · exact .inl ha
  · rcases List.infix_append_iff.1 hrest with hin | hb | ⟨l, l', rfl, hl, hl'⟩
    · rw [hnil part (fun _ hc => hc) fun _ hc => hin.subset hc]
      exact .inl List.nil_infix
    · exact .inr hb
    · have hempty := hnil l (fun c hc => List.mem_append_left l' hc) fun _ hc => hl.subset hc
      rw [hempty, List.nil_append]
      exact .inr hl'.isInfix
  · -- what reaches into the separator begins with its first character
    obtain ⟨x, sep', rfl⟩ := List.exists_cons_of_ne_nil hsep
    rcases List.prefix_cons_iff.1 hl' with rfl | ⟨t, rfl, -⟩
    · rw [List.append_nil]
      exact .inl hl.isInfix
    · exact absurd (List.mem_append_right l List.mem_cons_self) (hapart x List.mem_cons_self)

/-- **Nothing comes together.** A part that is in none of the pieces is not in the joined text. -/
theorem Pieces.not_infix_joined {p : Pieces} (h : p.Without part) (hsep : sep ≠ []) (hapart : ∀ c ∈ sep, c ∉ part) :
    ¬ part <:+: p.joined sep := by
  obtain ⟨first, others⟩ := p
  induction others generalizing first with
  | nil =>
    rw [joined, List.flatMap_nil, List.append_nil]
    exact h first List.mem_cons_self
  | cons l ls ih =>
    obtain ⟨hfirst, hothers⟩ := List.forall_mem_cons.1 h
    rw [joined_cons]
    intro hin
    rcases infix_around hsep hapart hin with hin | hin
    · exact hfirst hin
    · exact ih l hothers hin

end

/-- a text without the part is its only piece -/
theorem replaceText_of_absent (by_ : List Char) (hpart : part ≠ []) {cs : List Char} (h : ¬ part <:+: cs) :
    replaceText part by_ cs = cs := by
  obtain ⟨⟨first, others⟩, -, htext, hreplaced⟩ := exists_pieces hpart cs
  cases others with
  | nil => rw [hreplaced, ← htext, Pieces.joined, Pieces.joined, List.flatMap_nil, List.flatMap_nil]
  | cons l ls =>
    rw [← htext, Pieces.joined_cons] at h
    exact absurd (List.infix_append' first part _) h

/-! ## Headers -/

/-- a header, and what is shown of it where a secret is masked -/
structure Masks (secret : String) (h h' : String × String) : Prop where
  name : h'.1 = h.1
  /-- the masks stand between the pieces that the secret has stood between -/
  pieces : ∃ p : Pieces, p.Without secret.toList ∧ h.2.toList = p.joined secret.toList ∧
    h'.2.toList = p.joined Settings.mask.toList
  hidden : ¬ secret.toList <:+: h'.2.toList
  kept : ¬ secret.toList <:+: h.2.toList → h'.2 = h.2

section

variable {secret : String}

theorem toList_ne_nil (hne : secret ≠ "") : secret.toList ≠ [] := fun h => hne (String.toList_eq_nil_iff.1 h)

theorem mask_apart (hstar : '*' ∉ secret.toList) : ∀ c ∈ Settings.mask.toList, c ∉ secret.toList := by
  intro c hc
  have hmask : Settings.mask.toList = List.replicate 8 '*' := by decide
  rw [hmask] at hc
  rwa [List.eq_of_mem_replicate hc]

theorem headers_redacted (hne : secret ≠ "") (r : Request) :
    (r.redacted secret).headers = r.headers.map fun h =>
      (h.1, String.ofList (replaceText secret.toList Settings.mask.toList h.2.toList)) := by
  rw [Request.redacted, if_neg hne]

theorem masks_replaced (hne : secret ≠ "") (hstar : '*' ∉ secret.toList) (h : String × String) :
    Masks secret h (h.1, String.ofList (replaceText secret.toList Settings.mask.toList h.2.toList)) := by
  have hpart := toList_ne_nil hne
  obtain ⟨p, hwithout, htext, hreplaced⟩ := exists_pieces hpart h.2.toList
  refine ⟨rfl, ⟨p, hwithout, htext.symm, ?_⟩, ?_, fun hkept => ?_⟩
  · rw [String.toList_ofList, hreplaced]
  · rw [String.toList_ofList, hreplaced]
    exact Pieces.not_infix_joined hwithout (by decide) (mask_apart hstar)
  · rw [replaceText_of_absent _ hpart hkept, String.ofList_toList]

/-- **Header by header.** Names and order are kept, and every value is masked. -/
theorem masks_redacted (hne : secret ≠ "") (hstar : '*' ∉ secret.toList) (r : Request) :
    List.Forall₂ (Masks secret) r.headers (r.redacted secret).headers := by
  rw [headers_redacted hne, List.forall₂_map_right_iff]
  exact List.forall₂_same.2 fun h _ => masks_replaced hne hstar h

/-- the secret is in no header that is shown -/
theorem hidden_redacted (hne : secret ≠ "") (hstar : '*' ∉ secret.toList) (r : Request) :
    ∀ h ∈ (r.redacted secret).headers, ¬ secret.toList <:+: h.2.toList := by
  rw [headers_redacted hne]
  exact List.forall_mem_map.2 fun h _ => (masks_replaced hne hstar h).hidden

/-- a request without the secret in its headers is shown as it is -/
theorem redacted_of_hidden (hne : secret ≠ "") {r : Request} (h : ∀ h ∈ r.headers, ¬ secret.toList <:+: h.2.toList) :
    r.redacted secret = r := by
  have hheaders : (r.headers.map fun g =>
      (g.1, String.ofList (replaceText secret.toList Settings.mask.toList g.2.toList))) = r.headers := by
    refine (List.map_congr_left fun g hg => ?_).trans (List.map_id r.headers)
    rw [replaceText_of_absent _ (toList_ne_nil hne) (h g hg), String.ofList_toList]
    rfl
  rw [Request.redacted, if_neg hne, hheaders]

end

/-! ## Dry runs -/

/-- a prepared request as it is shown -/
def Prepared.masked (p : Prepared) (secret : String) : Prepared := { p with request := p.request.redacted secret }

namespace Cli

variable {σ : Type} {w : Surroundings (StateM σ)} {username text : String} {source : ListingSource} {t : σ}

/-- a dry run prints the request that it has prepared, the key masked in it -/
theorem shown_of_summarize {d : Summarizer} (h : ((summarize w d username source .request).run.run t).1 = .ok text) :
    ∃ v p, d.prepare username v = .ok p ∧ text = printed (p.masked d.settings.apiKey).toJson := by
  obtain ⟨v, t', -, h⟩ := exists_of_bind_ok h
  obtain ⟨p, t'', hp, h⟩ := exists_of_bind_ok h
  rw [run_result, Prod.mk.injEq] at hp
  exact ⟨v, p, hp.1, (Except.ok.inj h).symm⟩

theorem settings_of_ofSettings {s : Settings} {d : Summarizer} (h : Summarizer.ofSettings s = .ok d) :
    d.settings = s := by
  rw [Summarizer.ofSettings] at h
  cases hparse : FieldMapping.parse s.mapping with
  | error flaw => rw [hparse] at h; cases h
  | ok mapping => rw [hparse] at h; cases h; rfl

/-- the settings that are masked are those that were loaded -/
theorem shown_of_run {i : Invocation} {env : Environment} {limit? : Option Int64} {s : Settings}
    (hcommand : i.command = .summarize username source .request limit?)
    (hload : ((i.prepare w env).run.run t).1 = .ok s) (h : ((i.run w env).run.run t).1 = .ok text) :
    ∃ d v p, Summarizer.ofSettings (withLimit s limit?) = .ok d ∧ d.prepare username v = .ok p ∧
      text = printed (p.masked s.apiKey).toJson := by
  rw [Invocation.run, hcommand] at h
  obtain ⟨s', t', hs', h⟩ := exists_of_bind_ok h
  obtain ⟨d, t'', hd, h⟩ := exists_of_bind_ok h
  rw [hs'] at hload
  obtain rfl : s' = s := Except.ok.inj hload
  rw [run_result, Prod.mk.injEq] at hd
  obtain ⟨v, p, hp, htext⟩ := shown_of_summarize h
  rw [settings_of_ofSettings hd.1] at htext
  exact ⟨d, v, p, hd.1, hp, htext⟩

end Cli

/-- **A secret is not shown.** For a secret that is not empty and has no asterisk: a request shows its address, its body
and its headers in order, each with its name; no header value that is shown has the secret in it, however the secret
overlaps itself; a value without the secret is shown as it is; and what is shown has nothing left to mask. So a dry run
whose settings have such a key prints a prepared request with no header value that has the key in it, whatever the
templates of the headers are. -/
theorem redacted_hides {secret : String} (hne : secret ≠ "") (hstar : '*' ∉ secret.toList) :
    (∀ r : Request, List.Forall₂ (Masks secret) r.headers (r.redacted secret).headers ∧
      (r.redacted secret).url = r.url ∧ (r.redacted secret).body = r.body ∧
      (r.redacted secret).redacted secret = r.redacted secret) ∧
    ∀ (σ : Type) (w : Cli.Surroundings (StateM σ)) (env : Environment) (i : Cli.Invocation) (username : String)
      (source : Cli.ListingSource) (limit? : Option Int64) (t : σ) (s : Settings) (text : String),
      i.command = .summarize username source .request limit? → ((i.prepare w env).run.run t).1 = .ok s →
      s.apiKey = secret → ((i.run w env).run.run t).1 = .ok text →
      ∃ d v p, Summarizer.ofSettings (Cli.withLimit s limit?) = .ok d ∧ d.prepare username v = .ok p ∧
        text = Cli.printed (p.masked secret).toJson ∧
        ∀ h ∈ (p.masked secret).request.headers, ¬ secret.toList <:+: h.2.toList := by
  refine ⟨fun r => ⟨masks_redacted hne hstar r, ?_, ?_, ?_⟩, ?_⟩
  · rw [Request.redacted, if_neg hne]
  · rw [Request.redacted, if_neg hne]
  · exact redacted_of_hidden hne (hidden_redacted hne hstar r)
  · rintro σ w env i username source limit? t s text hcommand hload rfl h
    obtain ⟨d, v, p, hd, hp, htext⟩ := Cli.shown_of_run hcommand hload h
    exact ⟨d, v, p, hd, hp, htext, hidden_redacted hne hstar p.request⟩

/-- a listing with one record -/
def dryTree : FileTree := ⟨[(["l.json"], .file "\x7b\"r\":[0]\x7d")], []⟩

/-- files alone: in a dry run with a listing at hand nothing is sent -/
def dryWorld : Cli.Surroundings (StateM FileTree) :=
  ⟨FileTree.system, ⟨fun _ => pure (.unanswered ""), fun _ => pure ()⟩, pure ""⟩

def dryEnvironment : Environment :=
  [("PEEKABOO_API_KEY", "aa"), ("PEEKABOO_RECORDS_PATH", "r"), ("PEEKABOO_COMMENT_MAPPER", "\x7b\x7d"),
    ("PEEKABOO_PAYLOAD_OBJECT", "1")]

def dryInvocation : Cli.Invocation :=
  ⟨none, .openai, none, none, .summarize "some-one" (.file "l.json") .request none⟩

/-- a key that overlaps itself, in a request that holds it twice over and in a dry run -/
theorem redacted_hides_overlapping :
    let r : Request := ⟨"http://x", [("X-Key", "baaa"), ("Accept", "a*a")], .null⟩
    let act := dryInvocation.prepare dryWorld dryEnvironment
    let run := dryInvocation.run dryWorld dryEnvironment
    "aa" ≠ "" ∧ '*' ∉ "aa".toList ∧ (r.redacted "aa").headers = [("X-Key", "b********a"), ("Accept", "a*a")] ∧
      List.Forall₂ (Masks "aa") r.headers (r.redacted "aa").headers ∧
      (r.redacted "aa").redacted "aa" = r.redacted "aa" ∧
      ∃ s text, (act.run.run dryTree).1 = .ok s ∧ s.apiKey = "aa" ∧ (run.run.run dryTree).1 = .ok text ∧
        ∃ p : Prepared, text = Cli.printed (p.masked "aa").toJson ∧
          ∀ h ∈ (p.masked "aa").request.headers, ¬ "aa".toList <:+: h.2.toList := by
  intro r act run
  have hne : "aa" ≠ "" := by decide
  have hstar : '*' ∉ "aa".toList := by decide
  have hheaders : (r.redacted "aa").headers = [("X-Key", "b********a"), ("Accept", "a*a")] := by decide +kernel
  have hkey : (act.run.run dryTree).1.toOption.map (·.apiKey) = some "aa" := by decide +kernel
  have hrun : (run.run.run dryTree).1.isOk = true := by decide +kernel
  obtain ⟨hrequest, hdry⟩ := redacted_hides hne hstar
  obtain ⟨hmasks, -, -, hagain⟩ := hrequest r
  cases hload : (act.run.run dryTree).1 with
  | error e => rw [hload] at hkey; cases hkey
  | ok s =>
    rw [hload] at hkey
    have hkey : s.apiKey = "aa" := Option.some.inj hkey
    cases htext : (run.run.run dryTree).1 with
    | error e => rw [htext] at hrun; cases hrun
    | ok text =>
      obtain ⟨d, v, p, -, -, hprinted, hhidden⟩ :=
        hdry FileTree dryWorld dryEnvironment dryInvocation "some-one" (.file "l.json") none dryTree s text rfl hload
          hkey htext
      exact ⟨hne, hstar, hheaders, hmasks, hagain, s, text, rfl, hkey, rfl, p, hprinted, hhidden⟩

end CommentDigest
