/-
What an answer to a request comes to.

An answer may be any JSON value. It fails if it is an object with a member `error` that is not null, and then the
session ends with the words of that failure; any other answer is kept as it is, with the text that the settings point
to. So there is nothing in between: each answer is a failure or a summary, and which of them is settled by one member.

- `Fails`, `Says`: a failure in an answer, and its words
- `reportedError?_eq_some_iff`: how failures are found
- `Selects`, `TextAt`: the value that a path selects, and the text of it
- `textAt_responseText`: the text of an answer
- `summarizeListing_answered`: what a request comes to once it is answered
-/
import CommentDigest.Proofs.Json.Printed
import CommentDigest.Proofs.Path
import CommentDigest.Proofs.Settings.Loading
import CommentDigest.Session

namespace CommentDigest

open Json

/-! ## Failures -/

/-- the answer is an object whose member `error` is there and is not null -/
def Fails (r e : Json) : Prop := ∃ ms, r = .object ms ∧ Members.get? ms "error" = some e ∧ e ≠ .null

/-- the value is an object whose member `message` is a text -/
def HasMessage (e : Json) (s : String) : Prop := ∃ ms, e = .object ms ∧ Members.get? ms "message" = some (.string s)

/-- the words of a failure: itself if it is a text, else its message if that is a text, else its compact text -/
inductive Says : Json → String → Prop where
  | itself (s : String) : Says (.string s) s
  | message {e : Json} {s : String} (h : HasMessage e s) : Says e s
  | whole {e : Json} (hitself : ∀ s, e ≠ .string s) (hmessage : ∀ s, ¬ HasMessage e s) : Says e e.render

theorem asString?_eq_some_iff {v : Json} {s : String} : v.asString? = some s ↔ v = .string s := by
  cases v with
  | string s' => simp [asString?]
  | _ => simp [asString?]

theorem message?_eq_some_iff {e : Json} {s : String} :
    (e.member? "message").bind asString? = some s ↔ HasMessage e s := by
  rw [Option.bind_eq_some_iff]
  simp only [asString?_eq_some_iff]
  cases e with
  | object ms => simp [member?, HasMessage]
  | _ => simp [member?, HasMessage]

/-- every value has words -/
theorem exists_words (e : Json) : ∃ m, Says e m := by
  cases hitself : e.asString? with
  | some s => exact ⟨s, asString?_eq_some_iff.1 hitself ▸ .itself s⟩
  | none =>
    cases hmessage : (e.member? "message").bind asString? with
    | some s => exact ⟨s, .message (message?_eq_some_iff.1 hmessage)⟩
    | none =>
      refine ⟨e.render, .whole (fun s hs => ?_) fun s hs => ?_⟩
      · rw [asString?_eq_some_iff.2 hs] at hitself
        cases hitself
      · rw [message?_eq_some_iff.2 hs] at hmessage
        cases hmessage

/-- a failure is reported in its words -/
theorem reportedError?_of_words {r e : Json} {m : String} (hr : Fails r e) (hm : Says e m) :
    reportedError? r = some m := by
  obtain ⟨ms, rfl, hget, hnull⟩ := hr
  have hmember : (Json.object ms).member? "error" = some e := hget
  unfold reportedError?
  rw [hmember]
  cases hm with
  | itself s => rfl
  | message h =>
    have hmessage := message?_eq_some_iff.2 h
    obtain ⟨ms', rfl, -⟩ := h
    dsimp only
    rw [hmessage]
  | whole hitself hmessage =>
    have hnone : (e.member? "message").bind asString? = none :=
      Option.eq_none_iff_forall_ne_some.2 fun s hs => hmessage s (message?_eq_some_iff.1 hs)
    cases e with
    | null => exact absurd rfl hnull
    | string s => exact absurd rfl (hitself s)
    | _ => dsimp only; rw [hnone]

/-- an answer without a failure reports none -/
theorem reportedError?_of_not {r : Json} (h : ∀ e, ¬ Fails r e) : reportedError? r = none := by
  cases r with
  | object ms =>
    unfold reportedError?
    cases hget : (Json.object ms).member? "error" with
    | none => rfl
    | some e =>
      obtain rfl : e = .null := by
        by_contra hnull
        exact h e ⟨ms, rfl, hget, hnull⟩
      rfl
  | _ => rfl

/-- **Failures in answers.** What is reported are the words of the failure in an answer. -/
theorem reportedError?_eq_some_iff {r : Json} {m : String} : reportedError? r = some m ↔ ∃ e, Fails r e ∧ Says e m := by
  refine ⟨fun h => ?_, fun ⟨e, hr, hm⟩ => reportedError?_of_words hr hm⟩
  by_cases hfails : ∃ e, Fails r e
  · obtain ⟨e, hr⟩ := hfails
    obtain ⟨m', hm'⟩ := exists_words e
    rw [reportedError?_of_words hr hm'] at h
    exact ⟨e, hr, Option.some.inj h ▸ hm'⟩
  · rw [reportedError?_of_not (not_exists.1 hfails)] at h
    cases h

/-! ## Texts -/

/-- the value that a path selects: the whole answer for the empty path, else what the path leads to -/
inductive Selects (r : Json) (path : String) : Json → Prop where
  | whole (h : path = "") : Selects r path r
  | led (h : path ≠ "") {v : Json} (hv : Path.find? r path = some v) : Selects r path v

/-- the text of an answer: none where the path leads nowhere, a text as it is, and any other value in compact form, from
which the value can be read again if all its numbers are exact and it is not too deep -/
structure TextAt (r : Json) (path : String) (text : Option String) : Prop where
  missing : text = none ↔ path ≠ "" ∧ Path.find? r path = none
  verbatim : ∀ s, Selects r path (.string s) → text = some s
  compact : ∀ v, Selects r path v → (∀ s, v ≠ .string s) → text = some v.render
  readable : ∀ v, Selects r path v → Distinct r → Exact v → v.depth ≤ Read.maxLevels → Json.parse v.render = .ok v

/-- what is shown of a selected value -/
def shownText : Json → String
  | .string s => s
  | v => v.render

theorem Selects.partOf {r v : Json} {path : String} (h : Selects r path v) : PartOf v r := by
  cases h with
  | whole h => exact .refl
  | led h hv => exact Path.partOf_of_find? hv

theorem responseText_eq (r : Json) (path : String) :
    responseText r path = (if path = "" then some r else Path.find? r path).map shownText := rfl

theorem responseText_of_selects {r v : Json} {path : String} (h : Selects r path v) :
    responseText r path = some (shownText v) := by
  rw [responseText_eq]
  cases h with
  | whole h => rw [if_pos h]; rfl
  | led h hv => rw [if_neg h, hv]; rfl

theorem shownText_of_ne {v : Json} (h : ∀ s, v ≠ .string s) : shownText v = v.render := by
  cases v with
  | string s => exact absurd rfl (h s)
  | _ => rfl

/-- **The text of an answer.** -/
theorem textAt_responseText (r : Json) (path : String) : TextAt r path (responseText r path) where
  missing := by
    rw [responseText_eq, Option.map_eq_none_iff]
    split_ifs with h
    · simp [h]
    · simp [h]
  verbatim s h := responseText_of_selects h
  compact v h hv := by rw [responseText_of_selects h, shownText_of_ne hv]
  readable v h hdistinct hexact hdepth := parse_render hdepth (EveryObject.of_partOf hdistinct h.partOf) hexact

/-! ## Answers -/

/-- the summary of an answer -/
def Prepared.summary (p : Prepared) (r : Json) (text : Option String) : Summary :=
  ⟨p.username, text, r, p.batch.processed, p.request.url⟩

theorem readAnswer_eq_error_iff {d : Summarizer} {p : Prepared} {r : Json} {m : String} :
    d.readAnswer p r = .error (.endpoint m) ↔ reportedError? r = some m := by
  unfold Summarizer.readAnswer
  cases reportedError? r with
  | none => exact ⟨fun h => (by cases h), fun h => (by cases h)⟩
  | some m' => simp

theorem readAnswer_of_not {r : Json} (h : ∀ e, ¬ Fails r e) (d : Summarizer) (p : Prepared) :
    d.readAnswer p r = .ok (p.summary r (responseText r d.settings.responsePath)) := by
  rw [Summarizer.readAnswer, reportedError?_of_not h]
  rfl

section

variable {σ : Type} {d : Summarizer} {transport : Transport (StateM σ)} {username : String} {listing r : Json}
  {p : Prepared} {t t' : σ}

/-- a request that is answered comes to what is read from the answer, and nothing else is called -/
theorem run_summarizeListing (hp : d.prepare username listing = .ok p)
    (hr : (transport (Summarizer.sendCall p.request)).run.run t = (.ok r, t')) :
    (d.summarizeListing transport username listing).run.run t = (d.readAnswer p r, t') := by
  have hprepared : (ExceptT.mk (pure (d.prepare username listing)) : ExceptT _ (StateM σ) _).run.run t = (.ok p, t) := by
    rw [run_result, hp]
  rw [Summarizer.summarizeListing, run_bind_of_ok hprepared, run_bind_of_ok hr, run_result]

/-- **An answer is a failure or a summary.** Whatever the answer to a prepared request is: if it is an object with a
member `error` that is not null, the session ends with the words of that failure, and it ends with a failure of the
endpoint in no other case. Any other answer makes a summary that keeps the answer as it is, and its text is that of the
value that the settings point to. -/
theorem summarizeListing_answered (hp : d.prepare username listing = .ok p)
    (hr : (transport (Summarizer.sendCall p.request)).run.run t = (.ok r, t')) :
    ∃ result, (d.summarizeListing transport username listing).run.run t = (result, t') ∧
      (∀ e, Fails r e → ∃ m, Says e m ∧ result = .error (.endpoint m)) ∧
      (∀ m, result = .error (.endpoint m) ↔ ∃ e, Fails r e ∧ Says e m) ∧
      ((∀ e, ¬ Fails r e) →
        ∃ text, result = .ok (p.summary r text) ∧ TextAt r d.settings.responsePath text) := by
  refine ⟨d.readAnswer p r, run_summarizeListing hp hr, fun e he => ?_, fun m => ?_, fun h => ?_⟩
  · obtain ⟨m, hm⟩ := exists_words e
    exact ⟨m, hm, readAnswer_eq_error_iff.2 (reportedError?_of_words he hm)⟩
  · rw [readAnswer_eq_error_iff, reportedError?_eq_some_iff]
  · exact ⟨_, readAnswer_of_not h d p, textAt_responseText r _⟩

end

/-- a server that keeps its answer and gives it to every call -/
def keeper : Transport (StateM Json) := fun _ => ExceptT.mk fun r => (.ok r, r)

/-- a failure whose message is no text, a null that stands at the path, and an answer without the path -/
theorem summarizeListing_answered_three :
    let d : Summarizer :=
      ⟨{ Settings.ofPreset .openai with recordsPath := "r", payload := "1", responsePath := "a" }, .empty⟩
    let listing : Json := .object [("r", .array [.bool true])]
    let act := d.summarizeListing keeper "some-one" listing
    let failing : Json := .object [("a", .string "x"), ("error", .object [("message", .number (.int 1))])]
    let present : Json := .object [("error", .null), ("a", .null)]
    let elsewhere : Json := .array [.string "error"]
    ∃ p, d.prepare "some-one" listing = .ok p ∧
      (∀ r, (keeper (Summarizer.sendCall p.request)).run.run r = (.ok r, r)) ∧
      act.run.run failing = (.error (.endpoint "\x7b\"message\":1\x7d"), failing) ∧
      act.run.run present = (.ok (p.summary present (some "null")), present) ∧
      act.run.run elsewhere = (.ok (p.summary elsewhere none), elsewhere) := by
  intro d listing act failing present elsewhere
  have hok : (d.prepare "some-one" listing).isOk = true := by decide +kernel
  cases hp : d.prepare "some-one" listing with
  | error e => rw [hp] at hok; cases hok
  | ok p =>
    have hkeeper : ∀ r, (keeper (Summarizer.sendCall p.request)).run.run r = (.ok r, r) := fun r => rfl
    refine ⟨p, rfl, hkeeper, ?_, ?_, ?_⟩
    · obtain ⟨result, hrun, -, hwords, -⟩ := summarizeListing_answered hp (hkeeper failing)
      have hsays : Says (.object [("message", .number (.int 1))]) "\x7b\"message\":1\x7d" := by
        have hrender : (Json.object [("message", .number (.int 1))]).render = "\x7b\"message\":1\x7d" := by
          decide +kernel
        rw [← hrender]
        refine .whole (fun s hs => by cases hs) ?_
        rintro s ⟨ms, ⟨⟩, hget⟩
        cases hget
      rw [hrun, (hwords _).2 ⟨_, ⟨_, rfl, rfl, by decide⟩, hsays⟩]
    · obtain ⟨result, hrun, -, -, hkept⟩ := summarizeListing_answered hp (hkeeper present)
      have hnot : ∀ e, ¬ Fails present e := by
        rintro e ⟨ms, hms, hget, hnull⟩
        rw [← Json.object.inj hms] at hget
        exact hnull (Option.some.inj hget).symm
      obtain ⟨text, hresult, htext⟩ := hkept hnot
      have hnull : text = some "null" := htext.compact .null (.led (by decide) (by decide)) fun s hs => by cases hs
      rw [hrun, hresult, hnull]
    · obtain ⟨result, hrun, -, -, hkept⟩ := summarizeListing_answered hp (hkeeper elsewhere)
      obtain ⟨text, hresult, htext⟩ := hkept fun e ⟨ms, hms, _⟩ => Json.noConfusion hms
      rw [hrun, hresult, htext.missing.2 ⟨by decide, by decide⟩]

end CommentDigest
