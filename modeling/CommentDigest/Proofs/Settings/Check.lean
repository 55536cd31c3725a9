/-
Settings that pass the check can be used.

The check looks at each field that a later stage can stumble over, one after another. What it lets through has a field
mapping, an address and a number of attempts that are used as they are; the limit of records, which a command line can
change afterwards, is not looked at. The text of a field mapping is read twice, once by the check and once for use, and
both accept the same texts.

- `flaw?_eq_none_iff`: what the check asks for, field by field
- `mappingFlaw?_eq_none_iff`, `parse_isOk_iff`: the two readings of a field mapping
- `check_withMapping`: the check on settings that differ in their mapping
- `check_suffices`: what later stages can rely on
-/
import CommentDigest.Cli.Run
import CommentDigest.Proofs.FieldMapping
import Mathlib.Tactic.Common

namespace CommentDigest

/-- what does not come to a value comes to an error -/
theorem exists_error_iff {ε α : Type} {r : Except ε α} : (∃ e, r = .error e) ↔ ∀ a, r ≠ .ok a := by
  cases r with
  | ok a => exact ⟨fun ⟨e, h⟩ => (by cases h), fun h => absurd rfl (h a)⟩
  | error e => exact ⟨fun _ a h => (by cases h), fun _ => ⟨e, rfl⟩⟩

/-! ## Field mappings -/

namespace FieldMapping

/-- members are pairs of strings if their values are strings -/
theorem stringPairs_isOk_iff (ms : Members) : (∃ pairs, stringPairs ms = .ok pairs) ↔ ∀ m ∈ ms, m.2.isString = true := by
  constructor
  · rintro ⟨pairs, hpairs⟩
    cases hother : ms.find? fun m => !m.2.isString with
    | some m =>
      rw [stringPairs_of_find?_eq_some hother] at hpairs
      cases hpairs
    | none => exact fun m hm => by simpa using List.find?_eq_none.1 hother m hm
  · intro h
    obtain ⟨pairs, rfl⟩ := exists_strings h
    exact ⟨pairs, stringPairs_strings pairs⟩

/-- an object of strings; a repeated name counts with its last value -/
def IsObjectOfStrings (text : String) : Prop :=
  ∃ ms, Json.parse text = .ok (.object ms) ∧ ∀ m ∈ ms, m.2.isString = true

theorem ofValue_isOk_iff (ms : Members) : (∃ m, ofValue (.object ms) = .ok m) ↔ ∃ pairs, stringPairs ms = .ok pairs := by
  rw [ofValue]
  cases stringPairs ms with
  | error flaw => simp
  | ok pairs => exact ⟨fun _ => ⟨pairs, rfl⟩, fun _ => ⟨ofPairs pairs, rfl⟩⟩

/-- a mapping is read from an object of strings, and from nothing else -/
theorem parse_isOk_iff (text : String) : (∃ m, parse text = .ok m) ↔ IsObjectOfStrings text := by
  unfold parse IsObjectOfStrings
  cases Json.parse text with
  | error e => simp
  | ok v =>
    cases v with
    | object ms => simp [ofValue_isOk_iff, stringPairs_isOk_iff]
    | _ => simp [ofValue]

end FieldMapping

namespace Settings

/-! ## The check -/

/-- the text of a field mapping passes the check if it is an object of strings -/
theorem mappingFlaw?_eq_none_iff (text : String) :
    mappingFlaw? text = none ↔ FieldMapping.IsObjectOfStrings text := by
  unfold mappingFlaw? FieldMapping.IsObjectOfStrings
  cases Json.parse text with
  | error e => exact ⟨fun h => (by cases h), fun ⟨ms, h, _⟩ => by cases h⟩
  | ok v =>
    cases v with
    | object ms =>
      dsimp only
      split_ifs with hall
      · exact ⟨fun _ => ⟨ms, rfl, List.all_eq_true.1 hall⟩, fun _ => rfl⟩
      · refine ⟨fun h => (by cases h), fun ⟨ms', hms, h⟩ => ?_⟩
        cases hms
        exact absurd (List.all_eq_true.2 h) hall
    | _ => exact ⟨fun h => (by cases h), fun ⟨ms, h, _⟩ => by cases h⟩

/-- what the check asks of every field but the mapping -/
structure SoundApart (s : Settings) : Prop where
  apiUrl : isBlankText s.apiUrl = false
  apiScheme : isHttpUrl s.apiUrl = true
  commentsScheme : isHttpUrl s.commentsUrl = true
  payload : isBlankText s.payload = false
  headers : ∀ h ∈ s.headers, isBlankText h.name = false
  logFile : isPlainFileName s.logFile = true
  timeout : s.timeoutSecs ≠ 0
  retries : s.maxRetries ≠ 0
  retryLimit : ¬ Settings.retryLimit < s.maxRetries

/-- there is no flaw if this one is none and there is no other -/
theorem ite_flaw_eq_none_iff {c : Prop} [Decidable c] {flaw : Flaw} {others : Option Flaw} :
    (if c then some flaw else others) = none ↔ ¬ c ∧ others = none := by
  by_cases hc : c
  · simp [hc]
  · simp [hc]

theorem flaw?_eq_none_iff (s : Settings) : s.flaw? = none ↔ s.SoundApart ∧ mappingFlaw? s.mapping = none := by
  have hheaders : ¬ (s.headers.any fun h => isBlankText h.name) = true ↔ ∀ h ∈ s.headers, isBlankText h.name = false := by
    simp only [List.any_eq_true, not_exists, not_and, Bool.not_eq_true]
  unfold flaw?
  cases mappingFlaw? s.mapping with
  | some flaw => simp [ite_flaw_eq_none_iff]
  | none =>
    simp only [ite_flaw_eq_none_iff, hheaders, Bool.not_eq_true, Bool.not_eq_false', and_true]
    constructor
    · rintro ⟨hapiUrl, hapiScheme, hcommentsScheme, hpayload, hnames, hlogFile, htimeout, hretries, hlimit⟩
      exact ⟨hapiUrl, hapiScheme, hcommentsScheme, hpayload, hnames, hlogFile, htimeout, hretries, hlimit⟩
    · intro h
      exact ⟨h.apiUrl, h.apiScheme, h.commentsScheme, h.payload, h.headers, h.logFile, h.timeout, h.retries, h.retryLimit⟩

theorem check_eq_ok_iff (s : Settings) : s.check = .ok () ↔ s.flaw? = none := by
  unfold check
  cases s.flaw? with
  | none => exact ⟨fun _ => rfl, fun _ => rfl⟩
  | some flaw => exact ⟨fun h => (by cases h), fun h => by cases h⟩

/-- the settings with another text for the mapping -/
def withMapping (s : Settings) (text : String) : Settings := { s with mapping := text }

/-- of settings that are sound apart from their mapping, the check accepts just the texts of a mapping -/
theorem check_withMapping {s : Settings} (h : s.SoundApart) (text : String) :
    (s.withMapping text).check = .ok () ↔ FieldMapping.IsObjectOfStrings text := by
  have hput : (s.withMapping text).SoundApart :=
    ⟨h.apiUrl, h.apiScheme, h.commentsScheme, h.payload, h.headers, h.logFile, h.timeout, h.retries, h.retryLimit⟩
  rw [check_eq_ok_iff, flaw?_eq_none_iff, ← mappingFlaw?_eq_none_iff]
  exact ⟨fun hflaw => hflaw.2, fun hmapping => ⟨hput, hmapping⟩⟩

/-! ## Later stages -/

theorem SoundApart.retries_range {s : Settings} (h : s.SoundApart) :
    1 ≤ s.maxRetries.toNat ∧ s.maxRetries.toNat ≤ Settings.retryLimit.toNat := by
  have hpos : s.maxRetries.toNat ≠ 0 := fun hzero => h.retries (UInt32.toNat_inj.1 hzero)
  have hle : ¬ Settings.retryLimit.toNat < s.maxRetries.toNat := fun hlt => h.retryLimit (UInt32.lt_iff_toNat_lt.2 hlt)
  omega

/-- as many attempts are made as the settings say, if they pass the check -/
theorem SoundApart.attemptLimit {s : Settings} (h : s.SoundApart) :
    Http.attemptLimit s.maxRetries = s.maxRetries.toNat := by
  obtain ⟨hpos, hle⟩ := h.retries_range
  rw [Http.attemptLimit]
  omega

/-- an address that is not blank is never missed -/
theorem ofSettings_ne_config {s : Settings} (h : isBlankText s.apiUrl = false) (records : List Record)
    (username m : String) : Request.ofSettings s records username ≠ .error (.config m) := by
  rw [Request.ofSettings, if_neg (by rw [h]; exact Bool.false_ne_true), fillPayload]
  cases Json.parse (Template.fill s.payload (.single "llmPrompt" (fillPrompt s.prompt records username)) .empty) with
  | ok v => exact fun h => by cases h
  | error e => exact fun h => by cases h

/-- what later stages rely on -/
structure Serves (s : Settings) : Prop where
  /-- the summarizer is there, with the settings as they are -/
  summarizer : ∃ mapping, FieldMapping.parse s.mapping = .ok mapping ∧ Summarizer.ofSettings s = .ok ⟨s, mapping⟩
  /-- building a request never finds fault with the settings -/
  request : ∀ records username m, Request.ofSettings s records username ≠ .error (.config m)
  /-- a call is attempted as often as the settings say -/
  transport : ∀ (m : Type → Type) [Monad m] (w : Cli.Surroundings m) (c : Call),
    w.transport s c = ExceptT.mk (Http.retry (w.wire.attempt c) w.wire.pause s.maxRetries.toNat)

theorem serves_of_check {s : Settings} (h : s.check = .ok ()) : s.Serves := by
  obtain ⟨hsound, hmapping⟩ := (flaw?_eq_none_iff s).1 ((check_eq_ok_iff s).1 h)
  refine ⟨?_, ofSettings_ne_config hsound.apiUrl, fun m _ w c => ?_⟩
  · obtain ⟨mapping, hparse⟩ := (FieldMapping.parse_isOk_iff s.mapping).2 ((mappingFlaw?_eq_none_iff s.mapping).1 hmapping)
    exact ⟨mapping, hparse, by rw [Summarizer.ofSettings, hparse]⟩
  · rw [Cli.Surroundings.transport, Http.Wire.transport, hsound.attemptLimit]

/-- the check does not look at the limit of records -/
theorem check_withLimit (s : Settings) (limit? : Option Int64) : (Cli.withLimit s limit?).check = s.check := rfl

/-- **What is checked is what is needed.** Settings that pass the check have a summarizer, give no cause for a fault of
the settings when a request is built, and are attempted as often as they say; also with any limit of records in the place
of theirs. And in settings that pass the check with some mapping, the check refuses a text for the mapping exactly when no
mapping can be read from it, which is when it is not an object of strings. -/
theorem check_suffices :
    (∀ s : Settings, s.check = .ok () → ∀ limit? : Option Int64,
      (Cli.withLimit s limit?).check = .ok () ∧ (Cli.withLimit s limit?).Serves) ∧
    ∀ (s : Settings) (other text : String), (s.withMapping other).check = .ok () →
      ((∃ e, (s.withMapping text).check = .error e) ↔ ∃ flaw, FieldMapping.parse text = .error flaw) ∧
      ((s.withMapping text).check = .ok () ↔ FieldMapping.IsObjectOfStrings text) := by
  refine ⟨fun s h limit? => ?_, fun s other text h => ?_⟩
  · have hlimit : (Cli.withLimit s limit?).check = .ok () := (check_withLimit s limit?).trans h
    exact ⟨hlimit, serves_of_check hlimit⟩
  · obtain ⟨hsound, -⟩ := (flaw?_eq_none_iff _).1 ((check_eq_ok_iff _).1 h)
    have haccepted : (s.withMapping text).check = .ok () ↔ _ := check_withMapping hsound text
    refine ⟨?_, haccepted⟩
    calc (∃ e, (s.withMapping text).check = .error e) ↔ ∀ u, (s.withMapping text).check ≠ .ok u := exists_error_iff
      _ ↔ ¬ (s.withMapping text).check = .ok () := ⟨fun h => h (), fun h _ => h⟩
      _ ↔ ¬ ∃ mapping, FieldMapping.parse text = .ok mapping := by rw [haccepted, FieldMapping.parse_isOk_iff]
      _ ↔ ∃ flaw, FieldMapping.parse text = .error flaw := not_exists.trans exists_error_iff.symm

/-- a preset's settings with a limit, and a mapping in which a number is overwritten by a path -/
theorem check_suffices_overwritten :
    let s := ofPreset .ollama
    let text := "\x7b\"c\": 1, \"c\": \"data.body\"\x7d"
    s.check = .ok () ∧ (Cli.withLimit s (some (-7))).Serves ∧
      (s.withMapping defaultMapping).check = .ok () ∧ (s.withMapping text).check = .ok () ∧
      ((∃ e, (s.withMapping text).check = .error e) ↔ ∃ flaw, FieldMapping.parse text = .error flaw) := by
  intro s text
  have hcheck : s.check = .ok () := by decide +kernel
  have hobject : FieldMapping.IsObjectOfStrings text := ⟨[("c", .string "data.body")], by decide +kernel, by decide⟩
  obtain ⟨hserves, hmapping⟩ := check_suffices
  obtain ⟨hsame, haccepted⟩ := hmapping s defaultMapping text hcheck
  exact ⟨hcheck, (hserves s hcheck (some (-7))).2, hcheck, haccepted.2 hobject, hsame⟩

end Settings

end CommentDigest
