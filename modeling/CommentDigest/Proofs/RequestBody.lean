/-
The body of a request, whatever the comments say.

The records go through three texts: they are written as JSON text, escaped into the prompt template, and put with the
prompt into the payload template, which is then read. Nothing in them takes part in the reading: the compact text has no
control characters, so escaping its backslashes and quotes makes it stand for itself in a literal, and the prompt around
it needs no escaping. The body read is the payload's own tree with the prompt in its strings.

- `spelledOut`, `plainPrompt`, `bodyWith`: the body told without the program's own steps
- `body_fillPrompt`: the prompt put together stands for the prompt with the plain records in it
- `ofSettings_eq`: the request for some records
-/
import CommentDigest.Proofs.Escaping
import CommentDigest.Proofs.Payload
import CommentDigest.Session

namespace CommentDigest

open Json Template

/-! ## What the body holds -/

/-- the records spelled out: an object for each of them, with the fields that have a value, in their order -/
def spelledOut (records : List Record) : Json :=
  .array (records.map fun r => .object (r.fields.filterMap fun f => f.2.map fun v => (f.1, v)))

/-- the prompt with the compact text of the records in it as it is -/
def plainPrompt (template : String) (records : List Record) (username : String) : String :=
  Template.fill template
    (.named fun n =>
      if n = "commentJsonData" then some (spelledOut records).render
      else if n = "username" then some username
      else none)
    (.text "")

/-- a payload's tree with a prompt in its strings -/
def bodyWith (v : Json) (prompt : String) : Json :=
  v.mapStrings fun x => Template.fill x (.named fun n => if n = "llmPrompt" then some prompt else none) (.text "")

theorem recordsJson_eq (records : List Record) : Batch.recordsJson records = spelledOut records := rfl

/-! ## The prompt -/

/-- the characters of account names need no escaping -/
theorem unescaped_of_checkUsername {username : String} (h : checkUsername username = .ok ()) :
    Unescaped username.toList := by
  unfold checkUsername at h
  split_ifs at h with _ hall
  intro c hc
  have hchar := List.all_eq_true.1 hall c hc
  have hquote : c ≠ '"' := by
    rintro rfl
    exact absurd hchar (by decide)
  have hslash : c ≠ '\\' := by
    rintro rfl
    exact absurd hchar (by decide)
  have hprintable : 32 ≤ c.toNat := by
    by_contra hlow
    have hcontrol : ∀ n < 32, isUsernameChar (Char.ofNat n) = false := by decide
    have hfalse := hcontrol c.toNat (Nat.lt_of_not_le hlow)
    rw [Char.ofNat_toNat, hchar] at hfalse
    cases hfalse
  exact ⟨hquote, hslash, hprintable⟩

theorem writtenAs_promptValues {data plain username : String} (hdata : Body data.toList plain.toList)
    (hname : Unescaped username.toList) :
    WrittenAs (fun n => if n = "commentJsonData" then some data else if n = "username" then some username else none)
      (fun n => if n = "commentJsonData" then some plain else if n = "username" then some username else none) := by
  intro n
  dsimp only
  split_ifs
  · exact .some hdata
  · exact .some (body_self hname)
  · exact .none

/-- **The prompt is written as it stands in a literal**, and read there it has the plain records in it. -/
theorem body_fillPrompt {template username : String} (records : List Record) (htemplate : Unescaped template.toList)
    (hname : checkUsername username = .ok ()) :
    Body (fillPrompt template records username).toList (plainPrompt template records username).toList := by
  have hdata : Body (String.ofList (escapeForLiteral (Batch.recordsJson records).chars)).toList
      (spelledOut records).render.toList := by
    rw [recordsJson_eq, String.toList_ofList, Json.render, String.toList_ofList]
    exact body_escapeForLiteral (printable_chars _)
  have hfilled := body_fillNamed (writtenAs_promptValues hdata (unescaped_of_checkUsername hname)) htemplate
  rw [fillPrompt, plainPrompt, Template.fill, Template.fill, String.toList_ofList, String.toList_ofList]
  exact hfilled

/-! ## Presets -/

theorem toList_payload (p : Preset) : p.payload.toList = p.body.prettyChars 0 := String.toList_ofList

theorem preset_payload_plain (p : Preset) : '\\' ∉ p.payload.toList := by
  rw [toList_payload]
  cases p <;> decide +kernel

theorem parse_preset_payload (p : Preset) : Json.parse p.payload = .ok p.body := by
  have hdocument : Read.document (p.body.prettyChars 0) = .ok p.body := by cases p <;> decide +kernel
  rw [Json.parse, toList_payload, hdocument]

theorem freeNames_preset_body (p : Preset) : FreeNames p.body := by
  have hnone : ∀ name : String, (cutOf (tokens .named name.toList)).pieces = [] →
      ∀ i q, ¬ Occurs .named name.toList i q := fun _ h => not_occurs_of_pieces h
  cases p with
  | openai =>
    simp only [Preset.body, FreeNames, everyObject_object, everyObject_array, everyObject_string, everyObject_number,
      Assoc.names, List.map_cons, List.map_nil, List.forall_mem_cons, List.not_mem_nil, false_implies, implies_true,
      and_true, true_and]
    have houter : ∀ i q, ¬ Occurs .named "temperature".toList i q := hnone "temperature" (by decide +kernel)
    exact ⟨⟨hnone "model" (by decide +kernel), hnone "messages" (by decide +kernel), houter⟩,
      hnone "role" (by decide +kernel), hnone "content" (by decide +kernel)⟩
  | ollama =>
    simp only [Preset.body, FreeNames, everyObject_object, everyObject_string, everyObject_bool, Assoc.names,
      List.map_cons, List.map_nil, List.forall_mem_cons, List.not_mem_nil, false_implies, implies_true, and_true]
    exact ⟨hnone "model" (by decide +kernel), hnone "prompt" (by decide +kernel), hnone "stream" (by decide +kernel)⟩

theorem unescaped_defaultPrompt : Unescaped Settings.defaultPrompt.toList := unescaped_of_all (by decide +kernel)

/-! ## The request -/

theorem ofSettings_of_payload {s : Settings} {records : List Record} {username : String} {v : Json}
    (hurl : isBlankText s.apiUrl = false) (hplain : '\\' ∉ s.payload.toList) (hparse : Json.parse s.payload = .ok v)
    (hfree : FreeNames v) (hprompt : Unescaped s.prompt.toList) (hname : checkUsername username = .ok ()) :
    Request.ofSettings s records username =
      .ok ⟨s.apiUrl, fillHeaders s.headers s.apiKey, bodyWith v (plainPrompt s.prompt records username)⟩ := by
  rw [Request.ofSettings, if_neg (by rw [hurl]; exact Bool.false_ne_true)]
  rw [fillPayload_of_body hplain hparse hfree (body_fillPrompt records hprompt hname)]
  rfl

/-- **The request for some records.** For a payload template without backslashes that is JSON text and has no
placeholder in a name, a prompt template that needs no escaping, and an account name: there is a request, and its body is
the tree of the payload with the prompt in its strings, the prompt having the compact text of the records in it as it is.
Apart from strings the body is the payload's tree. The text of the records is read as the records spelled out, when
nothing is lost in writing them. The payloads of the presets are such templates, and so is the prompt template that the
presets have. -/
theorem ofSettings_eq {s : Settings} {records : List Record} {username : String} {v : Json}
    (hurl : isBlankText s.apiUrl = false) (hplain : '\\' ∉ s.payload.toList) (hparse : Json.parse s.payload = .ok v)
    (hfree : FreeNames v) (hprompt : Unescaped s.prompt.toList) (hname : checkUsername username = .ok ()) :
    let body := bodyWith v (plainPrompt s.prompt records username)
    Request.ofSettings s records username = .ok ⟨s.apiUrl, fillHeaders s.headers s.apiKey, body⟩ ∧
      body.shape = v.shape ∧
      (Lossless Read.maxLevels (spelledOut records) →
        Json.parse (spelledOut records).render = .ok (spelledOut records)) ∧
      ∀ (p : Preset), ∀ prompt ∈ [s.prompt, (Settings.ofPreset p).prompt],
        Request.ofSettings { s with payload := p.payload, prompt := prompt } records username =
          .ok ⟨s.apiUrl, fillHeaders s.headers s.apiKey, bodyWith p.body (plainPrompt prompt records username)⟩ := by
  refine ⟨ofSettings_of_payload hurl hplain hparse hfree hprompt hname, shape_mapStrings _ v,
    fun h => parse_render h.depth h.distinct h.exact, fun p prompt hp => ?_⟩
  have hunescaped : Unescaped prompt.toList := by
    rcases List.mem_pair.1 hp with rfl | rfl
    · exact hprompt
    · exact unescaped_defaultPrompt
  exact ofSettings_of_payload (s := { s with payload := p.payload, prompt := prompt }) hurl (preset_payload_plain p)
    (parse_preset_payload p) (freeNames_preset_body p) hunescaped hname

/-- a comment that tries to end its string, to add a member and to be filled in; its quotes and its backslash are escaped
in the text of the records, and that text stands in the one string that asks for the prompt -/
theorem ofSettings_eq_hostile :
    let s := { Settings.ofPreset .openai with prompt := "\x7b$username\x7d said \x7b$commentJsonData\x7d" }
    let records : List Record := [⟨[("c", some (.string "\"\\\n\", \"model\": \"\x7b$llmPrompt\x7d")), ("up", none)]⟩,
      ⟨[("c", none), ("up", some (.number (.int 3)))]⟩]
    let text := "[\x7b\"c\":\"\\\"\\\\\\n\\\", \\\"model\\\": \\\"\x7b$llmPrompt\x7d\"\x7d,\x7b\"up\":3\x7d]"
    let body : Json := .object [
      ("model", .string "gpt-3.5-turbo-0125"),
      ("messages", .array [.object [("role", .string "user"), ("content", .string ("some-one said " ++ text))]]),
      ("temperature", .number (.float (Binary64.ofDecimal false 7 (-1))))]
    isBlankText s.apiUrl = false ∧ '\\' ∉ s.payload.toList ∧ Json.parse s.payload = .ok (Preset.body .openai) ∧
      FreeNames (Preset.body .openai) ∧ Unescaped s.prompt.toList ∧ checkUsername "some-one" = .ok () ∧
      Request.ofSettings s records "some-one" = .ok ⟨s.apiUrl, fillHeaders s.headers s.apiKey, body⟩ ∧
      Lossless Read.maxLevels (spelledOut records) ∧
      Json.parse text = .ok (.array [
        .object [("c", .string "\"\\\n\", \"model\": \"\x7b$llmPrompt\x7d")], .object [("up", .number (.int 3))]]) := by
  intro s records text body
  have hurl : isBlankText s.apiUrl = false := by decide +kernel
  have hprompt : Unescaped s.prompt.toList := unescaped_of_all (by decide +kernel)
  have hname : checkUsername "some-one" = .ok () := by decide +kernel
  have hplain := preset_payload_plain .openai
  have hparse := parse_preset_payload .openai
  have hfree := freeNames_preset_body .openai
  have htext : (spelledOut records).render = text := by decide +kernel
  have hbody : bodyWith (Preset.body .openai) (plainPrompt s.prompt records "some-one") = body := by decide +kernel
  have hlossless : Lossless Read.maxLevels (spelledOut records) := by
    refine Lossless.mono (lossless_array (n := 1).2 fun x hx => ?_) (by decide)
    rcases List.mem_pair.1 hx with rfl | rfl
    · exact lossless_object.2 ⟨by decide, List.forall_mem_singleton.2 (lossless_string _)⟩
    · exact lossless_object.2 ⟨by decide, List.forall_mem_singleton.2 (lossless_int (by decide))⟩
  obtain ⟨hrequest, -, hread, -⟩ := @ofSettings_eq s records _ _ hurl hplain hparse hfree hprompt hname
  rw [hbody] at hrequest
  rw [htext] at hread
  exact ⟨hurl, hplain, hparse, hfree, hprompt, hname, hrequest, hlossless, hread hlossless⟩

end CommentDigest
