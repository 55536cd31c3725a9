/-
Two sessions side by side.

Two actions go in lockstep when, from scripts with the same answers, they come to results that are alike and make calls
that are alike. What is alike is a parameter: a relation of calls, and one of values. Lockstep is kept by putting actions
one behind another, so for two summarizers it is enough to compare what they prepare.

- `Agree`: the same error, or values that are alike
- `Lockstep.bind`: one action behind another
- `Summarizer.Twins`: two summarizers that prepare what is alike
- `Summarizer.Twins.rehearse`: their sessions, entry by entry
-/
import CommentDigest.Proofs.Session.Calls
import Mathlib.Data.List.Forall2

namespace CommentDigest

open Script

/-! ## Results -/

/-- the same error, or values that are alike -/
inductive Agree {α β : Type} (R : α → β → Prop) : Except DigestError α → Except DigestError β → Prop where
  | error (e : DigestError) : Agree R (.error e) (.error e)
  | ok {a : α} {b : β} (h : R a b) : Agree R (.ok a) (.ok b)

section

variable {α β α' β' : Type} {R : α → β → Prop} {S : α' → β' → Prop}

theorem agree_self (r : Except DigestError α) : Agree Eq r r := by
  cases r with
  | error e => exact .error e
  | ok a => exact .ok rfl

theorem Agree.eq {r r' : Except DigestError α} (h : Agree Eq r r') : r = r' := by
  cases h with
  | error e => rfl
  | ok h => rw [h]

theorem Agree.mono {S : α → β → Prop} {r : Except DigestError α} {r' : Except DigestError β} (h : Agree R r r')
    (hS : ∀ a b, R a b → S a b) : Agree S r r' := by
  cases h with
  | error e => exact .error e
  | ok h => exact .ok (hS _ _ h)

theorem Agree.map {r : Except DigestError α} {r' : Except DigestError β} (h : Agree R r r') {f : α → α'} {g : β → β'}
    (hf : ∀ a b, R a b → S (f a) (g b)) : Agree S (r.map f) (r'.map g) := by
  cases h with
  | error e => exact .error e
  | ok h => exact .ok (hf _ _ h)

theorem Agree.bind {r : Except DigestError α} {r' : Except DigestError β} (h : Agree R r r')
    {f : α → Except DigestError α'} {g : β → Except DigestError β'} (hf : ∀ a b, R a b → Agree S (f a) (g b)) :
    Agree S (r >>= f) (r' >>= g) := by
  cases h with
  | error e => exact .error e
  | ok h => exact hf _ _ h

end

/-! ## Actions -/

/-- the same answers left, and calls that are alike one by one -/
structure Script.Alike (C : Call → Call → Prop) (s s' : Script) : Prop where
  answers : s.answers = s'.answers
  calls : List.Forall₂ C s.calls s'.calls

/-- from scripts that are alike, both actions come to results that are alike and leave scripts that are alike -/
def Lockstep {α β : Type} (C : Call → Call → Prop) (R : α → β → Prop) (act : ExceptT DigestError (StateM Script) α)
    (act' : ExceptT DigestError (StateM Script) β) : Prop :=
  ∀ s s', Alike C s s' → Agree R (play act s).1 (play act' s').1 ∧ Alike C (play act s).2 (play act' s').2

namespace Lockstep

variable {α β α' β' : Type} {C : Call → Call → Prop} {R : α → β → Prop} {S : α' → β' → Prop}

theorem result {r : Except DigestError α} {r' : Except DigestError β} (h : Agree R r r') :
    Lockstep C R (ExceptT.mk (pure r)) (ExceptT.mk (pure r')) :=
  fun _ _ hs => ⟨h, hs⟩

/-- one call on each side; the answer is the same one -/
theorem call {c c' : Call} (h : C c c') : Lockstep C Eq (transport c) (transport c') := by
  intro s s' hs
  have hnext : s.next = s'.next := by rw [next, next, hs.answers]
  rw [play_transport, play_transport, hnext]
  refine ⟨agree_self _, by rw [after, after, hs.answers], ?_⟩
  exact List.rel_append hs.calls (.cons h .nil)

theorem bind {act : ExceptT DigestError (StateM Script) α} {act' : ExceptT DigestError (StateM Script) β}
    {f : α → ExceptT DigestError (StateM Script) α'} {g : β → ExceptT DigestError (StateM Script) β'}
    (h : Lockstep C R act act') (hf : ∀ a b, R a b → Lockstep C S (f a) (g b)) :
    Lockstep C S (act >>= f) (act' >>= g) := by
  intro s s' hs
  obtain ⟨hr, ht⟩ := h s s' hs
  rw [play_bind, play_bind]
  generalize (play act s).1 = r, (play act' s').1 = r' at hr
  cases hr with
  | error e => exact ⟨.error e, ht⟩
  | ok hab => exact hf _ _ hab _ _ ht

theorem map {act : ExceptT DigestError (StateM Script) α} {act' : ExceptT DigestError (StateM Script) β}
    (h : Lockstep C R act act') {f : α → α'} {g : β → β'} (hf : ∀ a b, R a b → S (f a) (g b)) :
    Lockstep C S (do return f (← act)) (do return g (← act')) :=
  h.bind fun a b hab => result (.ok (hf a b hab))

end Lockstep

/-! ## Summarizers -/

/-- outcomes of one kind, equal unless they are prepared requests; those are alike -/
inductive Outcome.Alike (P : Prepared → Prepared → Prop) : Outcome → Outcome → Prop where
  | same (o : Outcome) : Outcome.Alike P o o
  | prepared {p p' : Prepared} (h : P p p') : Outcome.Alike P (.prepared p) (.prepared p')

theorem Outcome.Alike.eq {o o' : Outcome} (h : Outcome.Alike Eq o o') : o = o' := by
  cases h with
  | same o => rfl
  | prepared h => rw [h]

namespace Summarizer

/-- two summarizers that ask for listings with calls that are alike, take the same records out of them, prepare requests
that are alike, and read the same out of an answer -/
structure Twins (C : Call → Call → Prop) (P : Prepared → Prepared → Prop) (d d' : Summarizer) : Prop where
  listing : ∀ username, Agree C (listingCall d.settings.commentsUrl d.settings.cookie username)
    (listingCall d'.settings.commentsUrl d'.settings.cookie username)
  batch : ∀ v, d.mapListing v = d'.mapListing v
  prepared : ∀ username v, Agree P (d.prepare username v) (d'.prepare username v)
  sent : ∀ p p', P p p' → C (sendCall p.request) (sendCall p'.request)
  answer : ∀ p p' v, P p p' → d.readAnswer p v = d'.readAnswer p' v

namespace Twins

variable {C : Call → Call → Prop} {P : Prepared → Prepared → Prop} {d d' : Summarizer}

theorem fetch (h : Twins C P d d') (username : String) :
    Lockstep C Eq (d.fetch transport username) (d'.fetch transport username) :=
  (Lockstep.result (h.listing username)).bind fun _ _ hc => Lockstep.call hc

theorem summarizeListing (h : Twins C P d d') (username : String) (v : Json) :
    Lockstep C Eq (d.summarizeListing transport username v) (d'.summarizeListing transport username v) := by
  refine (Lockstep.result (h.prepared username v)).bind fun p p' hp => ?_
  refine (Lockstep.call (h.sent p p' hp)).bind fun a a' ha => ?_
  rw [ha, h.answer p p' a' hp]
  exact Lockstep.result (agree_self _)

theorem summarize (h : Twins C P d d') (username : String) :
    Lockstep C Eq (d.summarize transport username) (d'.summarize transport username) := by
  refine (h.fetch username).bind fun v v' hv => ?_
  rw [hv]
  exact h.summarizeListing username v'

/-- **One step.** Whatever the step is, twins go in lockstep. -/
theorem perform (h : Twins C P d d') (step : Step) :
    Lockstep C (Outcome.Alike P) (d.perform transport step) (d'.perform transport step) := by
  have hsame : ∀ {α : Type} (f : α → Outcome) (a b : α), a = b → Outcome.Alike P (f a) (f b) := by
    rintro α f a _ rfl
    exact .same (f a)
  cases step with
  | fetch username => exact (h.fetch username).map (hsame .listing)
  | map document =>
    refine (Lockstep.result (agree_self (readDocument document))).bind fun v v' hv => ?_
    rw [hv, h.batch v']
    exact Lockstep.result (.ok (.same _))
  | prepare username document =>
    refine (Lockstep.result (agree_self (readDocument document))).bind fun v v' hv => ?_
    rw [hv]
    exact (Lockstep.result (h.prepared username v')).map fun p p' hp => .prepared hp
  | summarize username => exact (h.summarize username).map (hsame .summary)
  | summarizeListing username document =>
    refine (Lockstep.result (agree_self (readDocument document))).bind fun v v' hv => ?_
    rw [hv]
    exact (h.summarizeListing username v').map (hsame .summary)

/-- **A whole session.** Entry by entry, results and calls are alike. -/
theorem rehearse (h : Twins C P d d') (steps : List Step) (answers : List Answer) :
    List.Forall₂ (fun x y => Agree (Outcome.Alike P) x.1 y.1 ∧ List.Forall₂ C x.2 y.2)
      (d.rehearse steps answers) (d'.rehearse steps answers) := by
  induction steps generalizing answers with
  | nil => exact .nil
  | cons step steps ih =>
    have hstart : Script.Alike C ⟨answers, []⟩ ⟨answers, []⟩ := ⟨rfl, .nil⟩
    obtain ⟨hresult, hscript⟩ := h.perform step _ _ hstart
    have hcalls : List.Forall₂ C (d.entry step answers).2 (d'.entry step answers).2 := hscript.calls
    rw [rehearse_cons, rehearse_cons, ← hcalls.length_eq]
    exact .cons ⟨hresult, hcalls⟩ (ih _)

end Twins

end Summarizer

end CommentDigest
