/-
How often a call is sent.

Anything can come of a request, so a call goes over a wire on which whatever is laid down beforehand comes of the first
request, of the second, and so on; the wire writes down what happens. The attempts end with the first one that is not a
failure that may pass, or with the last one allowed.

- `ComesTo`: what an attempt comes to, by what came of its request
- `run_retryFrom_succ`: one attempt, and the rest behind it
- `retryFrom_recorder`: all attempts, by induction on those left
- `call_retried`: the result of a call, and everything that happens for it
- `broken_refusal_sent_again`: a refusal whose body breaks off does not end the attempts
-/
import CommentDigest.Http.Client
import Mathlib.Algebra.Ring.Nat
import Mathlib.Tactic.Common

namespace CommentDigest.Http

/-! ## What an attempt comes to -/

/-- by what came of its request, an attempt is a success, may pass or is final, each failure with its own words -/
inductive ComesTo (address : String) : Delivery → Attempt → Prop
  | success {status : Nat} {text : String} {v : Json} : 200 ≤ status ∧ status < 300 → Json.parse text = .ok v →
      ComesTo address (.whole status text) (.success v)
  | notJson {status : Nat} {text : String} {e : Json.ReadError} : 200 ≤ status ∧ status < 300 →
      Json.parse text = .error e →
      ComesTo address (.whole status text)
        (.final (.network ("Failed to parse response from " ++ address ++ ": " ++ e.message)))
  | passing {status : Nat} {text : String} : (500 ≤ status ∧ status < 600) ∨ status = 429 →
      ComesTo address (.whole status text)
        (.passing (.network (address ++ " returned " ++ statusText status ++ ": " ++ Attempt.excerpt text)))
  | final {status : Nat} {text : String} : ¬ (200 ≤ status ∧ status < 300) →
      ¬ ((500 ≤ status ∧ status < 600) ∨ status = 429) →
      ComesTo address (.whole status text)
        (.final (.network (address ++ " returned " ++ statusText status ++ ": " ++ Attempt.excerpt text)))
  | unbuilt (words : String) :
      ComesTo address (.unbuilt words) (.final (.invalidInput ("Invalid request: " ++ words)))
  | unanswered (words : String) :
      ComesTo address (.unanswered words) (.passing (.network ("Failed to send request: " ++ words)))
  | cut (status : Nat) (words : String) :
      ComesTo address (.cut status words) (.passing (.network ("Failed to read response body: " ++ words)))

theorem isSuccess_iff (status : Nat) : isSuccess status = true ↔ 200 ≤ status ∧ status < 300 := by
  simp [isSuccess]

theorem isPassing_iff (status : Nat) : isPassing status = true ↔ (500 ≤ status ∧ status < 600) ∨ status = 429 := by
  simp [isPassing]

theorem comesTo_ofAnswer (address : String) (status : Nat) (text : String) :
    ComesTo address (.whole status text) (.ofAnswer address status text) := by
  rw [Attempt.ofAnswer]
  split_ifs with hsuccess hpassing
  · have hstatus := (isSuccess_iff status).1 hsuccess
    cases hparse : Json.parse text with
    | ok v => exact .success hstatus hparse
    | error e => exact .notJson hstatus hparse
  · exact .passing ((isPassing_iff status).1 hpassing)
  · exact .final (mt (isSuccess_iff status).2 hsuccess) (mt (isPassing_iff status).2 hpassing)

theorem comesTo_ofDelivery (address : String) (d : Delivery) : ComesTo address d (.ofDelivery address d) := by
  cases d with
  | unbuilt words => exact .unbuilt words
  | unanswered words => exact .unanswered words
  | cut status words => exact .cut status words
  | whole status text => exact comesTo_ofAnswer address status text

theorem ComesTo.eq_ofDelivery {address : String} {d : Delivery} {a : Attempt} (h : ComesTo address d a) :
    a = .ofDelivery address d := by
  cases h with
  | success hstatus hparse =>
    rw [Attempt.ofDelivery, Attempt.ofAnswer, if_pos ((isSuccess_iff _).2 hstatus), hparse]
  | notJson hstatus hparse =>
    rw [Attempt.ofDelivery, Attempt.ofAnswer, if_pos ((isSuccess_iff _).2 hstatus), hparse]
  | @passing status text hstatus =>
    have hsuccess : ¬ isSuccess status = true := fun h => absurd ((isSuccess_iff status).1 h) (by omega)
    rw [Attempt.ofDelivery, Attempt.ofAnswer, if_neg hsuccess, if_pos ((isPassing_iff _).2 hstatus)]
  | final hsuccess hpassing =>
    rw [Attempt.ofDelivery, Attempt.ofAnswer, if_neg (mt (isSuccess_iff _).1 hsuccess),
      if_neg (mt (isPassing_iff _).1 hpassing)]
  | unbuilt words => rfl
  | unanswered words => rfl
  | cut status words => rfl

/-- an attempt comes to one thing -/
theorem comesTo_iff {address : String} {d : Delivery} {a : Attempt} :
    ComesTo address d a ↔ a = .ofDelivery address d :=
  ⟨ComesTo.eq_ofDelivery, fun h => h ▸ comesTo_ofDelivery address d⟩

namespace Attempt

/-- the result, if it is the last attempt -/
def result : Attempt → Except DigestError Json
  | .success v => .ok v
  | .passing e => .error e
  | .final e => .error e

end Attempt

/-- the failure may pass -/
def Delivery.MayPass (address : String) (d : Delivery) : Prop := ∃ e, ComesTo address d (.passing e)

theorem mayPass_iff {address : String} {d : Delivery} :
    d.MayPass address ↔ ∃ e, Attempt.ofDelivery address d = .passing e := by
  refine exists_congr fun e => ?_
  rw [comesTo_iff, eq_comm]

/-- a whole answer makes a failure that may pass with these codes only -/
theorem mayPass_whole_iff {address text : String} {status : Nat} :
    (Delivery.whole status text).MayPass address ↔ (500 ≤ status ∧ status < 600) ∨ status = 429 := by
  refine ⟨fun ⟨e, he⟩ => ?_, fun hstatus => ⟨_, .passing hstatus⟩⟩
  cases he with
  | passing hstatus => exact hstatus

/-! ## Words -/

/-- the words by which the error of an attempt with a request is known -/
def failureWords : List String :=
  ["Failed to send request: ", "Failed to read response body: ", " returned ", "Failed to parse response from "]

/-- every error of the network has some of these words -/
theorem ComesTo.worded {address : String} {d : Delivery} {a : Attempt} {m : String} (h : ComesTo address d a)
    (hresult : a.result = .error (.network m)) :
    ∃ word ∈ failureWords, ∃ before after, m = before ++ word ++ after := by
  have hreturned (status : Nat) (text : String) : ∃ word ∈ failureWords, ∃ before after,
      address ++ " returned " ++ statusText status ++ ": " ++ Attempt.excerpt text = before ++ word ++ after :=
    ⟨" returned ", by decide, address, statusText status ++ ": " ++ Attempt.excerpt text, by
      simp only [String.append_assoc]⟩
  cases h with
  | success => cases hresult
  | @notJson status text e hstatus hparse =>
    cases hresult
    refine ⟨"Failed to parse response from ", by decide, "", address ++ ": " ++ e.message, ?_⟩
    rw [String.empty_append, ← String.append_assoc, ← String.append_assoc]
  | passing => cases hresult; exact hreturned _ _
  | final => cases hresult; exact hreturned _ _
  | unbuilt => cases hresult
  | unanswered words =>
    cases hresult
    exact ⟨"Failed to send request: ", by decide, "", words, by rw [String.empty_append]⟩
  | cut status words =>
    cases hresult
    exact ⟨"Failed to read response body: ", by decide, "", words, by rw [String.empty_append]⟩

/-- no attempt fails with the error kept for the case that none was made: that one has no `n` -/
theorem ComesTo.result_ne {address : String} {d : Delivery} {a : Attempt} (h : ComesTo address d a) :
    a.result ≠ .error (.network "All retries failed") := by
  intro hresult
  obtain ⟨word, hword, before, after, htext⟩ := h.worded hresult
  have hwords : ∀ w ∈ failureWords, 'n' ∈ w.toList := by decide
  have hletter : 'n' ∈ "All retries failed".toList := by
    rw [htext, String.toList_append, String.toList_append]
    exact List.mem_append_left _ (List.mem_append_right _ (hwords word hword))
  exact absurd hletter (by decide)

/-! ## What happens on a wire -/

/-- something that happens on a wire -/
inductive Event where
  /-- an attempt at a call -/
  | tried (c : Call)
  | waited (seconds : Nat)
  deriving DecidableEq, Repr

def Event.isTried : Event → Bool
  | .tried _ => true
  | .waited _ => false

/-- how many attempts there were -/
def triedCount (log : List Event) : Nat := log.countP Event.isTried

/-- of the attempts comes what is laid down for their numbers, the first one being number 1; all is written down -/
def recorder (deliveries : Nat → Delivery) : Wire (StateM (List Event)) where
  send c := fun log => (deliveries (triedCount log + 1), log ++ [.tried c])
  pause n := fun log => ((), log ++ [.waited n])

/-- the result of a call, and what happens for it -/
def record (deliveries : Nat → Delivery) (maxRetries : UInt32) (c : Call) : Except DigestError Json × List Event :=
  ((recorder deliveries).transport maxRetries c).run.run []

/-- so many attempts and one, behind the first `n`: the pauses lie between them -/
def rounds (c : Call) (n more : Nat) : List Event :=
  .tried c :: (List.range' (n + 1) more).flatMap fun i => [.waited (min 30 (2 ^ (i - 1))), .tried c]

theorem rounds_succ (c : Call) (n more : Nat) :
    rounds c n (more + 1) = .tried c :: .waited (min 30 (2 ^ n)) :: rounds c (n + 1) more := by
  rw [rounds, List.range'_succ, List.flatMap_cons]
  rfl

theorem triedCount_rounds (c : Call) (n more : Nat) : triedCount (rounds c n more) = more + 1 := by
  induction more generalizing n with
  | zero => rfl
  | succ more ih =>
    have hrest := ih (n + 1)
    rw [triedCount] at hrest ⊢
    rw [rounds_succ, List.countP_cons_of_pos rfl, List.countP_cons_of_neg (by simp [Event.isTried]), hrest]

theorem pauseAfter_succ (n : Nat) : pauseAfter (n + 1) = min 30 (2 ^ n) := rfl

theorem attemptLimit_eq (maxRetries : UInt32) : attemptLimit maxRetries = max 1 (min 10 maxRetries.toNat) := rfl

/-! ## Attempts -/

/-- one attempt, and the rest behind it -/
theorem run_retryFrom_succ {σ : Type} (attempt : StateM σ Attempt) (pause : Nat → StateM σ Unit) (left number : Nat)
    (last? : Option DigestError) (s : σ) :
    (retryFrom attempt pause (left + 1) number last?).run s =
      match attempt.run s with
      | (.success v, t) => (.ok v, t)
      | (.final e, t) => (.error e, t)
      | (.passing e, t) =>
        (retryFrom attempt pause left (number + 1) (some e)).run
          (if left = 0 then t else ((pause (pauseAfter number)).run t).2) := by
  rw [retryFrom, StateT.run_bind]
  rcases attempt.run s with ⟨a, t⟩
  cases a with
  | success v => rfl
  | final e => rfl
  | passing e => cases left <;> rfl

section

variable (deliveries : Nat → Delivery) (c : Call)

theorem run_attempt (log : List Event) :
    ((recorder deliveries).attempt c).run log =
      (.ofDelivery c.url (deliveries (triedCount log + 1)), log ++ [.tried c]) := rfl

/-- the attempts behind the first `n`, with `left` more after the next one: they stop at the first attempt that is not a
failure that may pass, or with the last one allowed -/
theorem retryFrom_recorder (left n : Nat) (last? : Option DigestError) (log : List Event) (hlog : triedCount log = n) :
    ∃ more ≤ left,
      (∀ i, n < i → i < n + 1 + more → (deliveries i).MayPass c.url) ∧
      (more = left ∨ ¬ (deliveries (n + 1 + more)).MayPass c.url) ∧
      (retryFrom ((recorder deliveries).attempt c) (recorder deliveries).pause (left + 1) (n + 1) last?).run log =
        ((Attempt.ofDelivery c.url (deliveries (n + 1 + more))).result, log ++ rounds c n more) := by
  -- what holds when the next attempt is the last one
  have hnone : ∀ i, n < i → i < n + 1 + 0 → (deliveries i).MayPass c.url := by omega
  induction left generalizing n last? log with
  | zero =>
    refine ⟨0, Nat.le_refl 0, hnone, .inl rfl, ?_⟩
    rw [run_retryFrom_succ, run_attempt, hlog, Nat.add_zero]
    cases Attempt.ofDelivery c.url (deliveries (n + 1)) <;> rfl
  | succ left ih =>
    rw [run_retryFrom_succ, run_attempt, hlog]
    cases ha : Attempt.ofDelivery c.url (deliveries (n + 1)) with
    | success v => exact ⟨0, Nat.zero_le _, hnone, .inr (by simp [mayPass_iff, ha]), by rw [Nat.add_zero, ha]; rfl⟩
    | final e => exact ⟨0, Nat.zero_le _, hnone, .inr (by simp [mayPass_iff, ha]), by rw [Nat.add_zero, ha]; rfl⟩
    | passing e =>
      have hnext : triedCount (log ++ [.tried c] ++ [.waited (pauseAfter (n + 1))]) = n + 1 := by
        rw [← hlog, triedCount, triedCount, List.countP_append, List.countP_append]
        rfl
      obtain ⟨more, hle, hbefore, hlast, hrun⟩ := ih (n + 1) (some e) _ hnext (by omega)
      have hshift : n + 1 + (more + 1) = n + 1 + 1 + more := by omega
      refine ⟨more + 1, by omega, ?_, ?_, ?_⟩
      · intro i hi hi'
        rcases Nat.eq_or_lt_of_le hi with rfl | hi
        · exact mayPass_iff.2 ⟨e, ha⟩
        · exact hbefore i hi (by omega)
      · rw [hshift]
        exact hlast.imp_left fun h => by rw [h]
      · rw [hshift, rounds_succ, ← pauseAfter_succ]
        refine Eq.trans hrun ?_
        simp [List.append_assoc]

end

/-! ## Calls -/

/-- the call ends with attempt `j`: the first one that is not a failure that may pass, or the last one allowed -/
structure EndsAt (deliveries : Nat → Delivery) (maxRetries : UInt32) (c : Call) (j : Nat) : Prop where
  first : 1 ≤ j
  within : j ≤ max 1 (min 10 maxRetries.toNat)
  before : ∀ i, 1 ≤ i → i < j → (deliveries i).MayPass c.url
  last : j = max 1 (min 10 maxRetries.toNat) ∨ ¬ (deliveries j).MayPass c.url
  result : ∃ a, ComesTo c.url (deliveries j) a ∧ (record deliveries maxRetries c).1 = a.result
  log : (record deliveries maxRetries c).2 =
    .tried c :: (List.range' 1 (j - 1)).flatMap fun i => [.waited (min 30 (2 ^ (i - 1))), .tried c]

theorem exists_endsAt (deliveries : Nat → Delivery) (maxRetries : UInt32) (c : Call) :
    ∃ j, EndsAt deliveries maxRetries c j := by
  have hlimit : attemptLimit maxRetries - 1 + 1 = attemptLimit maxRetries := by
    rw [attemptLimit_eq]
    omega
  obtain ⟨more, hle, hbefore, hlast, hrun⟩ :=
    retryFrom_recorder deliveries c (attemptLimit maxRetries - 1) 0 none [] rfl
  rw [hlimit] at hrun
  rw [attemptLimit_eq] at hle hlast
  have hrecord : record deliveries maxRetries c =
      ((Attempt.ofDelivery c.url (deliveries (0 + 1 + more))).result, rounds c 0 more) := hrun
  refine ⟨0 + 1 + more, by omega, by omega, fun i hi => hbefore i hi, ?_, ?_, ?_⟩
  · exact hlast.imp_left fun h => by omega
  · exact ⟨_, comesTo_ofDelivery _ _, by rw [hrecord]⟩
  · rw [hrecord, Nat.zero_add, Nat.add_sub_cancel_left]
    rfl

section

variable {deliveries : Nat → Delivery} {maxRetries : UInt32} {c : Call} {j : Nat}

/-- there are as many attempts -/
theorem EndsAt.triedCount (h : EndsAt deliveries maxRetries c j) : triedCount (record deliveries maxRetries c).2 = j := by
  have hcount := triedCount_rounds c 0 (j - 1)
  rw [h.log]
  rw [rounds] at hcount
  have hfirst := h.first
  exact hcount.trans (by omega)

/-- no attempt comes behind one that is not a failure that may pass -/
theorem EndsAt.triedCount_le {i : Nat} (h : EndsAt deliveries maxRetries c j) (hi : 1 ≤ i)
    (hstop : ¬ (deliveries i).MayPass c.url) : Http.triedCount (record deliveries maxRetries c).2 ≤ i := by
  rw [h.triedCount]
  by_contra hlt
  exact hstop (h.before i hi (by omega))

end

/-- **Attempts at a call.** Whatever comes of the requests, each attempt comes to one thing (`ComesTo`), and the call ends
with attempt `j` (`EndsAt`): the first one that is not a failure that may pass if the settings allow so many, else the
last one of those they allow, at least one and at most ten. The result is the one of that attempt and never the error for
no attempt at all; every attempt is at the same call; a pause, doubled from one second up to thirty, lies before every
attempt but the first. No attempt comes behind a whole answer of 200 to 299, or of 400 to 499 without 429. -/
theorem call_retried (deliveries : Nat → Delivery) (maxRetries : UInt32) (c : Call) :
    (∀ d, ∃! a, ComesTo c.url d a) ∧
      (∃ j, EndsAt deliveries maxRetries c j) ∧
      (record deliveries maxRetries c).1 ≠ .error (.network "All retries failed") ∧
      ∀ i status text, 1 ≤ i → deliveries i = .whole status text →
        (200 ≤ status ∧ status < 300) ∨ (400 ≤ status ∧ status < 500 ∧ status ≠ 429) →
          triedCount (record deliveries maxRetries c).2 ≤ i := by
  obtain ⟨j, hj⟩ := exists_endsAt deliveries maxRetries c
  refine ⟨fun d => ⟨_, comesTo_ofDelivery c.url d, fun a ha => ha.eq_ofDelivery⟩, ⟨j, hj⟩, ?_, ?_⟩
  · obtain ⟨a, ha, hresult⟩ := hj.result
    rw [hresult]
    exact ha.result_ne
  · intro i status text hi hwhole hstatus
    refine hj.triedCount_le hi fun hpassing => ?_
    rw [hwhole, mayPass_whole_iff] at hpassing
    omega

/-- a call with a body -/
def summaryCall : Call := ⟨.post, "http://127.0.0.1:8080/x", [("X-Api-Key", "k")], some .null⟩

/-- first a failure of the server, then an answer -/
def failsOnce : Nat → Delivery
  | 1 => .whole 503 "busy"
  | _ => .whole 200 "[1]"

/-- no answer at all -/
def failsAlways (_ : Nat) : Delivery := .unanswered "timed out"

/-- a page that is not there -/
def isRefused (_ : Nat) : Delivery := .whole 404 "no page"

/-- an answer behind one failure, and a refusal; with no answer, one attempt for a limit of 0 and ten for one above 10 -/
theorem call_retried_once :
    (∃ j, EndsAt failsOnce 3 summaryCall j) ∧ triedCount (record failsOnce 3 summaryCall).2 ≤ 2 ∧
      record failsOnce 3 summaryCall =
        (.ok (.array [.number (.int 1)]), [.tried summaryCall, .waited 1, .tried summaryCall]) ∧
      triedCount (record isRefused 3 summaryCall).2 ≤ 1 ∧
      record isRefused 3 summaryCall =
        (.error (.network "http://127.0.0.1:8080/x returned 404 Not Found: no page"), [.tried summaryCall]) ∧
      (record failsAlways 0 summaryCall).1 ≠ .error (.network "All retries failed") ∧
      record failsAlways 0 summaryCall =
        (.error (.network "Failed to send request: timed out"), [.tried summaryCall]) ∧
      (record failsAlways 70 summaryCall).2 =
        .tried summaryCall :: [1, 2, 4, 8, 16, 30, 30, 30, 30].flatMap fun n => [.waited n, .tried summaryCall] := by
  obtain ⟨-, hends, -, hstop⟩ := call_retried failsOnce 3 summaryCall
  obtain ⟨-, -, -, hstop'⟩ := call_retried isRefused 3 summaryCall
  obtain ⟨-, -, hresult, -⟩ := call_retried failsAlways 0 summaryCall
  exact ⟨hends, hstop 2 200 "[1]" (by decide) rfl (by decide), by decide +kernel,
    hstop' 1 404 "no page" (by decide) rfl (by decide), by decide +kernel, hresult, by decide +kernel, by decide +kernel⟩

/-- the code of the answer, if there was one -/
def Delivery.status? : Delivery → Option Nat
  | .unbuilt _ => none
  | .unanswered _ => none
  | .cut status _ => some status
  | .whole status _ => some status

/-- first a refusal whose body breaks off, then an answer -/
def refusesOnce : Nat → Delivery
  | 1 => .cut 404 "end of file before message length reached"
  | _ => .whole 200 "null"

/-- A body that breaks off makes a failure that may pass, whatever the code in front of it: behind such a refusal the
call is sent again. -/
theorem broken_refusal_sent_again :
    ¬ ∀ (deliveries : Nat → Delivery) (maxRetries : UInt32) (c : Call) (i status : Nat), 1 ≤ i →
        (deliveries i).status? = some status → 400 ≤ status ∧ status < 500 ∧ status ≠ 429 →
          triedCount (record deliveries maxRetries c).2 ≤ i := by
  intro h
  have htried := h refusesOnce 3 summaryCall 1 404 (by decide) rfl (by decide)
  exact absurd htried (by decide +kernel)

end CommentDigest.Http
