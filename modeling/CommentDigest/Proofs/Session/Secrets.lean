/-
Where the two secrets go.

A session holds two secrets: the key of the endpoint and the cookie of the listing. Two sessions whose settings differ in
one of them are twins: the key shows only in header values of calls for sending and of prepared requests, the cookie only
in the cookie header of calls for reading. No decision of a session depends on either.

- `fillHeaders_names`: the names of headers do not depend on the key
- `twins_of_key`, `twins_of_cookie`: summarizers that differ in a secret
- `fill_around_key`: outside of headers the placeholder of the key stands for nothing
- `secrets_stay_apart`: whole sessions
-/
import CommentDigest.Proofs.Assoc
import CommentDigest.Proofs.Session.TwoRuns
import CommentDigest.Proofs.Template.Named
import CommentDigest.Settings.Field

namespace CommentDigest

open Summarizer

/-! ## Settings that differ in one field -/

namespace Settings

/-- the same settings, a field apart -/
def AgreeBut (f : Field) (s t : Settings) : Prop := ∀ g, g ≠ f → s.get g = t.get g

theorem AgreeBut.eq_put {f : Field} {s t : Settings} (h : AgreeBut f s t) : t = s.put f (t.get f) := by
  apply ext_get
  intro g
  by_cases hg : g = f
  · subst hg
    rw [get_put]
  · rw [get_put_of_ne s hg, h g hg]

end Settings

/-! ## Sessions -/

/-- a session from settings, against a script -/
def session (s : Settings) (steps : List Step) (answers : List Answer) :
    Except DigestError (List (Except DigestError Outcome × List Call)) :=
  (Summarizer.ofSettings s).map fun d => d.rehearse steps answers

/-- two settings with the same mapping whose summarizers are twins have sessions that are alike -/
theorem agree_session {C : Call → Call → Prop} {P : Prepared → Prepared → Prop} {s t : Settings}
    (hmapping : s.mapping = t.mapping) (h : ∀ mapping, Twins C P ⟨s, mapping⟩ ⟨t, mapping⟩) (steps : List Step)
    (answers : List Answer) :
    Agree (List.Forall₂ fun x y => Agree (Outcome.Alike P) x.1 y.1 ∧ List.Forall₂ C x.2 y.2)
      (session s steps answers) (session t steps answers) := by
  unfold session Summarizer.ofSettings
  rw [hmapping]
  cases FieldMapping.parse t.mapping with
  | error flaw => exact .error _
  | ok mapping => exact .ok ((h mapping).rehearse steps answers)

/-! ## The key -/

/-- calls that are the same but for header values, and the same if they are for reading -/
structure KeyApart (c c' : Call) : Prop where
  method : c.method = c'.method
  url : c.url = c'.url
  body : c.body = c'.body
  names : Assoc.names c.headers = Assoc.names c'.headers
  get : c.method = .get → c = c'

/-- prepared requests that are the same but for header values -/
structure PreparedApart (p p' : Prepared) : Prop where
  username : p.username = p'.username
  batch : p.batch = p'.batch
  url : p.request.url = p'.request.url
  body : p.request.body = p'.request.body
  names : Assoc.names p.request.headers = Assoc.names p'.request.headers

theorem keyApart_self (c : Call) : KeyApart c c := ⟨rfl, rfl, rfl, rfl, fun _ => rfl⟩

theorem fillHeaders_names (headers : List HeaderTemplate) (key key' : String) :
    Assoc.names (fillHeaders headers key) = Assoc.names (fillHeaders headers key') := by
  have hrelated : Assoc.Related (fun _ _ : String => True)
      (headers.map fun h => (h.name, Template.fill h.value (.single "apiKey" key) .empty))
      (headers.map fun h => (h.name, Template.fill h.value (.single "apiKey" key') .empty)) :=
    List.forall₂_map_left_iff.2 (List.forall₂_map_right_iff.2 (List.forall₂_same.2 fun _ _ => ⟨rfl, trivial⟩))
  exact (hrelated.collect sameHeader).names_eq

theorem agree_ofSettings (s : Settings) (key : String) (records : List Record) (username : String) :
    Agree (fun r r' : Request => r.url = r'.url ∧ r.body = r'.body ∧ Assoc.names r.headers = Assoc.names r'.headers)
      (Request.ofSettings s records username) (Request.ofSettings (s.put .apiKey key) records username) := by
  unfold Request.ofSettings
  change Agree _ _ (if isBlankText s.apiUrl then _ else _)
  split_ifs
  · exact .error _
  · refine (agree_self (fillPayload s.payload (fillPrompt s.prompt records username))).bind fun body body' hbody => ?_
    exact .ok ⟨rfl, hbody, fillHeaders_names s.headers s.apiKey key⟩

theorem agree_prepare_key (s : Settings) (key : String) (mapping : FieldMapping) (username : String) (v : Json) :
    Agree PreparedApart ((⟨s, mapping⟩ : Summarizer).prepare username v)
      ((⟨s.put .apiKey key, mapping⟩ : Summarizer).prepare username v) := by
  rcases checkUsername_cases username with hname | ⟨m, hname⟩
  · rw [prepare_eq hname, prepare_eq hname]
    change Agree _ _ (if (Summarizer.mapListing ⟨s, mapping⟩ v).processed = 0 then _ else _)
    split_ifs
    · exact .error _
    · exact (agree_ofSettings s key _ username).map fun r r' hr => ⟨rfl, rfl, hr.1, hr.2.1, hr.2.2⟩
  · rw [prepare_error hname, prepare_error hname]
    exact .error _

/-- **The key.** Summarizers that differ in it differ in header values of what they send. -/
theorem twins_of_key (s : Settings) (key : String) (mapping : FieldMapping) :
    Twins KeyApart PreparedApart ⟨s, mapping⟩ ⟨s.put .apiKey key, mapping⟩ where
  listing username := by
    change Agree KeyApart (listingCall s.commentsUrl s.cookie username) (listingCall s.commentsUrl s.cookie username)
    cases listingCall s.commentsUrl s.cookie username with
    | error e => exact .error e
    | ok c => exact .ok (keyApart_self c)
  batch _ := rfl
  prepared := agree_prepare_key s key mapping
  sent p p' h := ⟨rfl, h.url, by rw [sendCall, sendCall, h.body], h.names, fun hget => by cases hget⟩
  answer p p' v h := by
    unfold readAnswer
    rw [h.username, h.batch, h.url]
    rfl

/-! ## The cookie -/

/-- calls that are the same but for a cookie, and the same if they are for sending -/
structure CookieApart (c c' : Call) : Prop where
  method : c.method = c'.method
  url : c.url = c'.url
  body : c.body = c'.body
  headers : (c.headers.filter fun h => h.1 ≠ "Cookie") = c'.headers.filter fun h => h.1 ≠ "Cookie"
  post : c.method = .post → c = c'

theorem filter_cookie (cookie : Option String) :
    (cookie.toList.map fun c => ("Cookie", c)).filter (fun h => h.1 ≠ "Cookie") = [] := by
  cases cookie <;> simp

theorem agree_listingCall (template : String) (cookie cookie' : Option String) (username : String) :
    Agree CookieApart (listingCall template cookie username) (listingCall template cookie' username) := by
  refine (agree_self (listingUrl template username)).bind fun url url' hurl => ?_
  exact .ok ⟨rfl, hurl, rfl, by rw [filter_cookie, filter_cookie], fun hpost => by cases hpost⟩

/-- **The cookie.** Summarizers that differ in it differ in the cookie of calls for reading. -/
theorem twins_of_cookie (s : Settings) (cookie : Option String) (mapping : FieldMapping) :
    Twins CookieApart Eq ⟨s, mapping⟩ ⟨s.put .cookie cookie, mapping⟩ where
  listing := agree_listingCall s.commentsUrl s.cookie cookie
  batch _ := rfl
  prepared username v := agree_self ((⟨s, mapping⟩ : Summarizer).prepare username v)
  sent p p' h := by
    subst h
    exact ⟨rfl, rfl, rfl, rfl, fun _ => rfl⟩
  answer p p' v h := by
    subst h
    rfl

/-! ## The key's placeholder elsewhere -/

/-- the placeholder of the key -/
def keyPlaceholder : String := "\x7b$apiKey\x7d"

open Template in
/-- a template without a value for the key drops the key's placeholder, and what stands around it is filled on its own -/
theorem fill_around_key {f : String → Option String} (hf : f "apiKey" = none) (front behind : String) :
    Template.fill (front ++ keyPlaceholder ++ behind) (.named f) .empty =
      Template.fill front (.named f) .empty ++ Template.fill behind (.named f) .empty := by
  have hlegal : (Placeholder.name "apiKey".toList).Legal .named :=
    show isName "apiKey".toList = true by decide +kernel
  have htext : keyPlaceholder.toList = (Placeholder.name "apiKey".toList).text := by decide +kernel
  have hnone : replacement (.named f) .empty 0 (.name "apiKey".toList) = [] := by
    rw [replacement_name, String.ofList_toList, hf]
    rfl
  have hchars := fillNamed_around f hlegal front.toList behind.toList
  rw [hnone, List.nil_append, ← htext, ← List.append_assoc] at hchars
  rw [Template.fill, Template.fill, Template.fill, String.toList_append, String.toList_append, ← String.ofList_append]
  exact congrArg String.ofList hchars

/-! ## Both secrets -/

/-- **The secrets do not cross over.** Sessions whose settings differ in the key make the same calls but for header values
of calls for sending, and come to the same results but for header values of prepared requests. Sessions whose settings
differ in the cookie make the same calls but for the cookie of calls for reading, and come to the same results. The key's
placeholder stands for nothing in a prompt, in a payload and in the URL of a listing. -/
theorem secrets_stay_apart (steps : List Step) (answers : List Answer) :
    (∀ s t, Settings.AgreeBut .apiKey s t →
      Agree (List.Forall₂ fun x y => Agree (Outcome.Alike PreparedApart) x.1 y.1 ∧ List.Forall₂ KeyApart x.2 y.2)
        (session s steps answers) (session t steps answers)) ∧
    (∀ s t, Settings.AgreeBut .cookie s t →
      Agree (List.Forall₂ fun x y => x.1 = y.1 ∧ List.Forall₂ CookieApart x.2 y.2)
        (session s steps answers) (session t steps answers)) ∧
    ∀ front behind : String,
      (∀ records username, fillPrompt (front ++ keyPlaceholder ++ behind) records username =
        fillPrompt front records username ++ fillPrompt behind records username) ∧
      (∀ prompt v, fillPayload (front ++ keyPlaceholder ++ behind) prompt = .ok v ↔
        Json.parse (Template.fill front (.single "llmPrompt" prompt) .empty ++
          Template.fill behind (.single "llmPrompt" prompt) .empty) = .ok v) ∧
      ∀ username, checkUsername username = .ok () →
        listingUrl (front ++ keyPlaceholder ++ behind) username =
          .ok (Template.fill front (.single "username" username) .empty ++
            Template.fill behind (.single "username" username) .empty) := by
  refine ⟨fun s t h => ?_, fun s t h => ?_, fun front behind => ⟨fun records username => ?_, fun prompt v => ?_,
    fun username hname => ?_⟩⟩
  · have htwins := twins_of_key s (t.get .apiKey)
    rw [← h.eq_put] at htwins
    exact agree_session (h .mapping (by decide)) htwins steps answers
  · have htwins := twins_of_cookie s (t.get .cookie)
    rw [← h.eq_put] at htwins
    refine (agree_session (h .mapping (by decide)) htwins steps answers).mono fun xs ys hxs => hxs.imp ?_
    exact fun x y hxy => ⟨(hxy.1.mono fun _ _ => Outcome.Alike.eq).eq, hxy.2⟩
  · exact fill_around_key rfl front behind
  · unfold fillPayload
    rw [Template.Values.single, fill_around_key rfl]
    cases Json.parse (_ ++ _) with
    | error e => exact ⟨fun h => (by cases h), fun h => by cases h⟩
    | ok w => exact ⟨fun h => by rw [Except.ok.inj h], fun h => by rw [Except.ok.inj h]⟩
  · rw [listingUrl, hname, Template.Values.single, fill_around_key rfl]
    rfl

/-- two keys with a template that asks for the key in its prompt: one call for sending, with different headers -/
theorem secrets_stay_apart_sent :
    let s := { Settings.ofPreset .openai with
      apiKey := "one", payload := "[\"\x7b$llmPrompt\x7d\"]", prompt := "\x7b$apiKey\x7d\x7b$commentJsonData\x7d",
      mapping := "\x7b\"c\":\"b\"\x7d", recordsPath := "r" }
    let t := { s with apiKey := "two" }
    let u := { s with cookie := some "three" }
    let steps : List Step := [.summarizeListing "some-one" "\x7b\"r\":[\x7b\"b\":1\x7d]\x7d", .fetch "some-one"]
    let answers : List Answer := [.text "1", .text "2"]
    Settings.AgreeBut .apiKey s t ∧ session s steps answers ≠ session t steps answers ∧
      Agree (List.Forall₂ fun x y => Agree (Outcome.Alike PreparedApart) x.1 y.1 ∧ List.Forall₂ KeyApart x.2 y.2)
        (session s steps answers) (session t steps answers) ∧
      Settings.AgreeBut .cookie s u ∧ session s steps answers ≠ session u steps answers ∧
      Agree (List.Forall₂ fun x y => x.1 = y.1 ∧ List.Forall₂ CookieApart x.2 y.2)
        (session s steps answers) (session u steps answers) ∧
      checkUsername "some-one" = .ok () ∧
      listingUrl ("http://" ++ keyPlaceholder ++ "x") "some-one" =
        .ok (Template.fill "http://" (.single "username" "some-one") .empty ++
          Template.fill "x" (.single "username" "some-one") .empty) := by
  intro s t u steps answers
  have hkey : Settings.AgreeBut .apiKey s t := by
    intro g hg
    cases g <;> first | rfl | exact absurd rfl hg
  have hcookie : Settings.AgreeBut .cookie s u := by
    intro g hg
    cases g <;> first | rfl | exact absurd rfl hg
  have hname : checkUsername "some-one" = .ok () := by decide +kernel
  have hkeys : session s steps answers ≠ session t steps answers := by decide +kernel
  have hcookies : session s steps answers ≠ session u steps answers := by decide +kernel
  obtain ⟨hapart, hcookieApart, htemplates⟩ := secrets_stay_apart steps answers
  exact ⟨hkey, hkeys, hapart s t hkey, hcookie, hcookies, hcookieApart s u hcookie, hname,
    (htemplates "http://" "x").2.2 "some-one" hname⟩

end CommentDigest
