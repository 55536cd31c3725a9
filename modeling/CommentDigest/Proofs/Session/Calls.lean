/-
What a session calls.

An action of a session plays against a script: it has a result, takes the answers it needs and leaves its calls behind
(`Script.play`). A dry run makes no call. A live run of the same listing either fails as the dry run does, without a call,
or makes one call, which is the request that the dry run shows.

- `play_transport`, `play_bind`: one call, and one thing after another
- `Frugal`: an action takes one answer for each call; every action of a session does
- `rehearse_append`: a session goes on with the answers that its first steps have left
- `play_follows_prepare`: dry run and live run, step by step
-/
import CommentDigest.Session
import Mathlib.Algebra.Ring.Nat
import Mathlib.Tactic.Common

namespace CommentDigest

/-! ## Scripts -/

namespace Script

variable {α β : Type}

/-- what the next call is answered with -/
def next (s : Script) : Except DigestError Json :=
  match s.answers with
  | [] => .error exhausted
  | a :: _ => Answer.result a

/-- the script when one more call has been made -/
def after (s : Script) (c : Call) : Script := ⟨s.answers.tail, s.calls ++ [c]⟩

/-- an action's result, and the script behind it -/
def play (act : ExceptT DigestError (StateM Script) α) (s : Script) : Except DigestError α × Script := act.run.run s

theorem play_result (r : Except DigestError α) (s : Script) : play (ExceptT.mk (pure r)) s = (r, s) := rfl

theorem play_transport (c : Call) (s : Script) : play (transport c) s = (s.next, s.after c) := by
  obtain ⟨answers, calls⟩ := s
  cases answers <;> rfl

/-- one action behind another: the second one starts where the first one has ended -/
theorem play_bind (act : ExceptT DigestError (StateM Script) α) (f : α → ExceptT DigestError (StateM Script) β)
    (s : Script) :
    play (act >>= f) s =
      match (play act s).1 with
      | .ok a => play (f a) (play act s).2
      | .error e => (.error e, (play act s).2) := by
  have hrun : play (act >>= f) s = (ExceptT.bindCont f (play act s).1).run (play act s).2 := rfl
  rw [hrun]
  cases (play act s).1 <;> rfl

theorem play_bind_ok {act : ExceptT DigestError (StateM Script) α} {f : α → ExceptT DigestError (StateM Script) β}
    {s t : Script} {a : α} (h : play act s = (.ok a, t)) : play (act >>= f) s = play (f a) t := by
  rw [play_bind, h]

theorem play_bind_error {act : ExceptT DigestError (StateM Script) α} {f : α → ExceptT DigestError (StateM Script) β}
    {s t : Script} {e : DigestError} (h : play act s = (.error e, t)) : play (act >>= f) s = (.error e, t) := by
  rw [play_bind, h]

/-! ## One answer for each call -/

/-- the action takes one answer for each of its calls, and takes no call back -/
def Frugal (act : ExceptT DigestError (StateM Script) α) : Prop :=
  ∀ s, ∃ made, (play act s).2 = ⟨s.answers.drop made.length, s.calls ++ made⟩

theorem frugal_result (r : Except DigestError α) : Frugal (ExceptT.mk (pure r) : ExceptT _ (StateM Script) α) :=
  fun s => ⟨[], by rw [play_result]; simp⟩

theorem frugal_transport (c : Call) : Frugal (transport c) :=
  fun s => ⟨[c], by rw [play_transport]; simp [after]⟩

theorem Frugal.bind {act : ExceptT DigestError (StateM Script) α} {f : α → ExceptT DigestError (StateM Script) β}
    (h : Frugal act) (hf : ∀ a, Frugal (f a)) : Frugal (act >>= f) := by
  intro s
  obtain ⟨made, hmade⟩ := h s
  rcases hplay : play act s with ⟨r, t⟩
  rw [hplay] at hmade
  obtain rfl : t = ⟨s.answers.drop made.length, s.calls ++ made⟩ := hmade
  cases r with
  | error e => exact ⟨made, by rw [play_bind_error hplay]⟩
  | ok a =>
    obtain ⟨more, hmore⟩ := hf a ⟨s.answers.drop made.length, s.calls ++ made⟩
    refine ⟨made ++ more, ?_⟩
    rw [play_bind_ok hplay, hmore, List.drop_drop, List.length_append, List.append_assoc]

end Script

open Script

/-! ## Names -/

theorem checkUsername_cases (username : String) :
    checkUsername username = .ok () ∨ ∃ m, checkUsername username = .error (.invalidInput m) := by
  unfold checkUsername
  split_ifs
  · exact .inr ⟨_, rfl⟩
  · exact .inl rfl
  · exact .inr ⟨_, rfl⟩

theorem listingCall_error {username : String} {e : DigestError} (h : checkUsername username = .error e)
    (template : String) (cookie : Option String) : listingCall template cookie username = .error e := by
  rw [listingCall, listingUrl, h]
  rfl

theorem listingCall_ok {username : String} (h : checkUsername username = .ok ()) (template : String)
    (cookie : Option String) : ∃ c, c.method = .get ∧ listingCall template cookie username = .ok c := by
  refine ⟨⟨.get, Template.fill template (.single "username" username) .empty,
    cookie.toList.map fun c => ("Cookie", c), none⟩, rfl, ?_⟩
  rw [listingCall, listingUrl, h]
  rfl

/-! ## Actions -/

namespace Summarizer

theorem prepare_error {username : String} {e : DigestError} (h : checkUsername username = .error e) (d : Summarizer)
    (listing : Json) : d.prepare username listing = .error e := by
  rw [prepare, h]
  rfl

/-- for an account name only an empty listing and an unusable template stop a request -/
theorem prepare_eq {username : String} (h : checkUsername username = .ok ()) (d : Summarizer) (listing : Json) :
    d.prepare username listing =
      if (d.mapListing listing).processed = 0 then
        .error (.notFound ("No comments found for " ++ username ++ " at '" ++ d.settings.recordsPath ++ "'"))
      else
        (Request.ofSettings d.settings (d.mapListing listing).records username).map fun r =>
          ⟨username, d.mapListing listing, r⟩ := by
  rw [prepare, h]
  dsimp only [bind, Except.bind]
  split_ifs
  · rfl
  · cases Request.ofSettings d.settings (d.mapListing listing).records username <;> rfl

/-- an account's listing is asked for in one call -/
theorem play_fetch (d : Summarizer) (username : String) (s : Script) :
    play (d.fetch Script.transport username) s =
      match listingCall d.settings.commentsUrl d.settings.cookie username with
      | .ok c => (s.next, s.after c)
      | .error e => (.error e, s) := by
  rw [fetch, fetchListing, play_bind, play_result]
  cases listingCall d.settings.commentsUrl d.settings.cookie username with
  | ok c => exact play_transport c s
  | error e => rfl

/-- a live run sends what the dry run has prepared, or fails as it does -/
theorem play_summarizeListing (d : Summarizer) (username : String) (listing : Json) (s : Script) :
    play (d.summarizeListing Script.transport username listing) s =
      match d.prepare username listing with
      | .ok p => (s.next.bind (d.readAnswer p), s.after (sendCall p.request))
      | .error e => (.error e, s) := by
  rw [summarizeListing, play_bind, play_result]
  cases d.prepare username listing with
  | error e => rfl
  | ok p =>
    dsimp only
    rw [play_bind, play_transport]
    cases s.next with
    | error e => rfl
    | ok answer => rfl

theorem play_summarize (d : Summarizer) (username : String) (s : Script) :
    play (d.summarize Script.transport username) s =
      match (play (d.fetch Script.transport username) s).1 with
      | .ok listing =>
        play (d.summarizeListing Script.transport username listing) (play (d.fetch Script.transport username) s).2
      | .error e => (.error e, (play (d.fetch Script.transport username) s).2) := by
  rw [summarize, play_bind]
  cases (play (d.fetch Script.transport username) s).1 <;> rfl

/-- a summary that was made says how many records went into it and where they were sent -/
theorem readAnswer_ok {d : Summarizer} {p : Prepared} {answer : Json} {r : Summary}
    (h : d.readAnswer p answer = .ok r) :
    r.username = p.username ∧ r.processed = p.batch.processed ∧ r.endpoint = p.request.url := by
  unfold readAnswer at h
  split at h
  · cases h
  · cases h
    exact ⟨rfl, rfl, rfl⟩

theorem frugal_fetch (d : Summarizer) (username : String) : Frugal (d.fetch Script.transport username) :=
  (frugal_result _).bind frugal_transport

theorem frugal_summarizeListing (d : Summarizer) (username : String) (listing : Json) :
    Frugal (d.summarizeListing Script.transport username listing) :=
  (frugal_result _).bind fun _ => (frugal_transport _).bind fun _ => frugal_result _

theorem frugal_perform (d : Summarizer) (step : Step) : Frugal (d.perform Script.transport step) := by
  cases step with
  | fetch username => exact (d.frugal_fetch username).bind fun _ => frugal_result _
  | map document => exact (frugal_result _).bind fun _ => frugal_result _
  | prepare username document =>
    exact (frugal_result _).bind fun _ => (frugal_result _).bind fun _ => frugal_result _
  | summarize username =>
    have hsummarize : Frugal (d.summarize Script.transport username) :=
      (d.frugal_fetch username).bind fun listing => d.frugal_summarizeListing username listing
    exact hsummarize.bind fun _ => frugal_result _
  | summarizeListing username document =>
    exact (frugal_result _).bind fun listing =>
      (d.frugal_summarizeListing username listing).bind fun _ => frugal_result _

/-! ## Sessions -/

/-- how many calls a session made -/
def callCount (entries : List (Except DigestError Outcome × List Call)) : Nat := (entries.map (·.2.length)).sum

/-- what is written down of one step: its result and its calls -/
def entry (d : Summarizer) (step : Step) (answers : List Answer) : Except DigestError Outcome × List Call :=
  ((play (d.perform Script.transport step) ⟨answers, []⟩).1, (play (d.perform Script.transport step) ⟨answers, []⟩).2.calls)

theorem rehearse_cons (d : Summarizer) (step : Step) (steps : List Step) (answers : List Answer) :
    d.rehearse (step :: steps) answers =
      d.entry step answers :: d.rehearse steps (answers.drop (d.entry step answers).2.length) := by
  obtain ⟨made, hmade⟩ := d.frugal_perform step ⟨answers, []⟩
  have hcalls : (d.entry step answers).2 = made := by
    rw [entry, hmade]
    rfl
  have hleft : (play (d.perform Script.transport step) ⟨answers, []⟩).2.answers = answers.drop made.length := by
    rw [hmade]
  rw [hcalls, ← hleft]
  rfl

/-- **A session goes on with what is left.** Behind its first steps a session finds the answers that their calls have not
taken. -/
theorem rehearse_append (d : Summarizer) (steps more : List Step) (answers : List Answer) :
    d.rehearse (steps ++ more) answers =
      d.rehearse steps answers ++ d.rehearse more (answers.drop (callCount (d.rehearse steps answers))) := by
  induction steps generalizing answers with
  | nil => rfl
  | cons step steps ih =>
    rw [List.cons_append, rehearse_cons, rehearse_cons, ih, List.drop_drop, List.cons_append]
    rfl

/-! ## Dry run and live run -/

/-- how live runs keep to dry runs, for an account name and a script with any answers left and any calls made -/
structure Follows (d : Summarizer) (username : String) (s : Script) : Prop where
  /-- a listing that cannot be prepared is not sent -/
  refused : ∀ listing e, d.prepare username listing = .error e →
    play (d.summarizeListing Script.transport username listing) s = (.error e, s)
  /-- a prepared request is sent as it is, once, and nothing else is -/
  sent : ∀ listing p, d.prepare username listing = .ok p →
    (play (d.summarizeListing Script.transport username listing) s).2 =
      s.after ⟨.post, p.request.url, p.request.headers, some p.request.body⟩
  /-- a summary counts the prepared records and names the prepared address -/
  counted : ∀ listing p r, d.prepare username listing = .ok p →
    (play (d.summarizeListing Script.transport username listing) s).1 = .ok r →
    r.processed = p.batch.processed ∧ r.endpoint = p.request.url
  /-- an account's listing is fetched with one call for reading -/
  fetched : checkUsername username = .ok () →
    ∃ c, c.method = .get ∧ listingCall d.settings.commentsUrl d.settings.cookie username = .ok c ∧
      play (d.fetch Script.transport username) s = (s.next, s.after c) ∧
      (∀ e, s.next = .error e → play (d.summarize Script.transport username) s = (.error e, s.after c)) ∧
      ∀ listing, s.next = .ok listing →
        play (d.summarize Script.transport username) s =
          play (d.summarizeListing Script.transport username listing) (s.after c)
  /-- what cannot be an account name goes nowhere -/
  rejected : ∀ e, checkUsername username = .error e →
    (∃ m, e = .invalidInput m) ∧ play (d.fetch Script.transport username) s = (.error e, s) ∧
      play (d.summarize Script.transport username) s = (.error e, s) ∧
      ∀ listing, d.prepare username listing = .error e ∧
        play (d.summarizeListing Script.transport username listing) s = (.error e, s)
  /-- dry steps make no call -/
  dry : ∀ document, (play (d.perform Script.transport (.map document)) s).2 = s ∧
    (play (d.perform Script.transport (.prepare username document)) s).2 = s

theorem follows (d : Summarizer) (username : String) (s : Script) : Follows d username s where
  refused listing e h := by rw [play_summarizeListing, h]
  sent listing p h := by
    rw [play_summarizeListing, h]
    rfl
  counted listing p r h hr := by
    rw [play_summarizeListing, h] at hr
    cases hnext : s.next with
    | error e =>
      rw [hnext] at hr
      cases hr
    | ok answer =>
      rw [hnext] at hr
      exact (readAnswer_ok hr).2
  fetched h := by
    obtain ⟨c, hget, hcall⟩ := listingCall_ok h d.settings.commentsUrl d.settings.cookie
    have hfetch : play (d.fetch Script.transport username) s = (s.next, s.after c) := by
      rw [play_fetch, hcall]
    refine ⟨c, hget, hcall, hfetch, fun e he => ?_, fun listing hl => ?_⟩
    · rw [play_summarize, hfetch, he]
    · rw [play_summarize, hfetch, hl]
  rejected e h := by
    have hfetch : play (d.fetch Script.transport username) s = (.error e, s) := by
      rw [play_fetch, listingCall_error h]
    refine ⟨?_, hfetch, ?_, fun listing => ⟨prepare_error h d listing, ?_⟩⟩
    · rcases checkUsername_cases username with hok | ⟨m, hm⟩
      · rw [hok] at h
        cases h
      · rw [hm] at h
        cases h
        exact ⟨m, rfl⟩
    · rw [play_summarize, hfetch]
    · rw [play_summarizeListing, prepare_error h]
  dry document := by
    constructor
    · rw [perform, play_bind, play_result]
      cases readDocument document <;> rfl
    · rw [perform, play_bind, play_result]
      cases readDocument document with
      | error e => rfl
      | ok listing =>
        dsimp only
        rw [play_bind, play_result]
        cases d.prepare username listing <;> rfl

/-- **Dry run and live run agree.** Whatever answers are left and whatever calls were made, a live run keeps to its dry
run; and every step of a session is played so, against the answers that the calls before it have left. -/
theorem play_follows_prepare (d : Summarizer) :
    (∀ username s, Follows d username s) ∧
      ∀ (before : List Step) (step : Step) (behind : List Step) (answers : List Answer),
        (d.rehearse (before ++ step :: behind) answers)[(d.rehearse before answers).length]? =
          some (d.entry step (answers.drop (callCount (d.rehearse before answers)))) := by
  refine ⟨d.follows, fun before step behind answers => ?_⟩
  rw [rehearse_append, rehearse_cons, List.getElem?_append_right (Nat.le_refl _), Nat.sub_self]
  rfl

/-- a listing with one record is sent, one without records is not, and a path is no account -/
theorem play_follows_prepare_three :
    let d : Summarizer := ⟨{ Settings.ofPreset .ollama with
      payload := "[\"\x7b$llmPrompt\x7d\"]", prompt := "\x7b$commentJsonData\x7d", recordsPath := "r" },
      .ofPairs [("c", "body")]⟩
    let listing : Json := .object [("r", .array [.object [("body", .string "hi")]])]
    let s : Script := ⟨[.text "\x7b\"response\": \"done\"\x7d"], []⟩
    let p : Prepared := ⟨"some-one", ⟨[⟨[("c", some (.string "hi"))]⟩], 1⟩,
      ⟨"http://localhost:11434/api/generate", [("Content-Type", "application/json")],
        .array [.string "[\x7b\"c\":\"hi\"\x7d]"]⟩⟩
    let none_ : DigestError := .notFound "No comments found for some-one at 'r'"
    d.prepare "some-one" listing = .ok p ∧
      (play (d.summarizeListing Script.transport "some-one" listing) s).2 =
        s.after ⟨.post, p.request.url, p.request.headers, some p.request.body⟩ ∧
      d.prepare "some-one" (.object []) = .error none_ ∧
      play (d.summarizeListing Script.transport "some-one" (.object [])) s = (.error none_, s) ∧
      ∃ e, checkUsername "../x" = .error e ∧ play (d.summarize Script.transport "../x") s = (.error e, s) := by
  intro d listing s p none_
  have hp : d.prepare "some-one" listing = .ok p := by decide +kernel
  have hnone : d.prepare "some-one" (.object []) = .error none_ := by decide +kernel
  have hname : checkUsername "../x" =
      .error (.invalidInput "Invalid username '../x': only letters, digits, '_' and '-' are allowed") := by decide +kernel
  obtain ⟨hsteps, -⟩ := play_follows_prepare d
  have hsome := hsteps "some-one" s
  exact ⟨hp, hsome.sent listing p hp, hnone, hsome.refused _ _ hnone, _, hname,
    ((hsteps "../x" s).rejected _ hname).2.2.1⟩

end Summarizer

end CommentDigest
