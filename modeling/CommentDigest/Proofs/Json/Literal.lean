/-
The inside of a string literal.

`Written t c` says how one character may stand in a literal: as itself, behind a backslash, as four hexadecimal digits,
or as a surrogate pair of them. `Body t s` puts such spellings one behind another. The reader of literals reads exactly
the bodies, and the printer writes bodies.

- `stringBody_of_body`, `body_of_stringBody`: the reader against the bodies
- `stringBody_append`, `stringBody_control`: the reader behind a body, and on a control character
- `Body.append`: bodies can be put together
- `body_quote`: what the printer writes between quotes
-/
import CommentDigest.Json.Printer
import CommentDigest.Json.Scan
import Mathlib.Tactic.Common

namespace CommentDigest.Json

open Read

/-! ## Spellings -/

/-- a character as it can stand in a string literal -/
inductive Written : List Char → Char → Prop
  | plain {c : Char} : c ≠ '"' → c ≠ '\\' → 32 ≤ c.toNat → Written [c] c
  | short {c x : Char} : unescape? c = some x → Written ['\\', c] x
  | code {a b c d : Char} {n : Nat} : hexValue4? a b c d = some n → isTrailing n = false → isLeading n = false →
      Written ['\\', 'u', a, b, c, d] (Char.ofNat n)
  | pair {a b c d e f g h : Char} {n m : Nat} : hexValue4? a b c d = some n → isTrailing n = false →
      isLeading n = true → hexValue4? e f g h = some m → isTrailing m = true →
      Written ['\\', 'u', a, b, c, d, '\\', 'u', e, f, g, h] (pairChar n m)

/-- what stands between the quotes of a literal, and the characters it stands for -/
inductive Body : List Char → List Char → Prop
  | nil : Body [] []
  | cons {t u s : List Char} {c : Char} : Written t c → Body u s → Body (t ++ u) (c :: s)

theorem Written.body {t : List Char} {c : Char} (h : Written t c) : Body t [c] := by
  simpa using Body.cons h Body.nil

theorem Body.append {t u s v : List Char} (h : Body t s) (h' : Body u v) : Body (t ++ u) (s ++ v) := by
  induction h with
  | nil => exact h'
  | cons hw _ ih =>
    rw [List.append_assoc]
    exact Body.cons hw ih

/-- a body made of the spellings of the characters of a text -/
theorem body_flatMap {f : Char → List Char} {s : List Char} (h : ∀ c ∈ s, Written (f c) c) : Body (s.flatMap f) s := by
  induction s with
  | nil => exact Body.nil
  | cons c s ih =>
    rw [List.flatMap_cons]
    exact Body.cons (h c List.mem_cons_self) (ih fun x hx => h x (List.mem_cons_of_mem c hx))

/-- nothing in the text needs escaping in a literal -/
def Unescaped (s : List Char) : Prop := ∀ c ∈ s, c ≠ '"' ∧ c ≠ '\\' ∧ 32 ≤ c.toNat

theorem unescaped_of_all {s : List Char} (h : s.all (fun c => c ≠ '"' ∧ c ≠ '\\' ∧ 32 ≤ c.toNat) = true) :
    Unescaped s :=
  fun c hc => of_decide_eq_true (List.all_eq_true.1 h c hc)

/-- characters that need no escaping stand for themselves -/
theorem body_self {s : List Char} (h : Unescaped s) : Body s s := by
  have hb := body_flatMap (f := fun c => [c]) fun c hc => Written.plain (h c hc).1 (h c hc).2.1 (h c hc).2.2
  rwa [List.flatMap_singleton'] at hb

/-- without a backslash a body is the text it stands for, and nothing in it needs escaping -/
theorem Body.eq_of_no_backslash {t s : List Char} (h : Body t s) (hb : '\\' ∉ t) :
    t = s ∧ Unescaped s := by
  induction h with
  | nil => exact ⟨rfl, fun _ hc => absurd hc List.not_mem_nil⟩
  | cons hw _ ih =>
    obtain ⟨rfl, hs⟩ := ih fun hm => hb (List.mem_append_right _ hm)
    cases hw with
    | plain h1 h2 h3 =>
      refine ⟨rfl, fun c hc => ?_⟩
      rcases List.mem_cons.1 hc with rfl | hc
      · exact ⟨h1, h2, h3⟩
      · exact hs c hc
    | short _ => exact absurd (by simp) hb
    | code _ _ _ => exact absurd (by simp) hb
    | pair _ _ _ _ _ => exact absurd (by simp) hb

/-! ## The reader -/

@[simp] theorem stopAt_ne_ok {α : Type} (f : Fault) (r : List Char) (a : α) : stopAt f r ≠ .ok a := by simp [stopAt]

@[simp] theorem stopOn_ne_ok {α : Type} (f : Fault) (r : List Char) (a : α) : stopOn f r ≠ .ok a := by simp [stopOn]

@[simp] theorem shortHex_ne_ok {α : Type} (r : List Char) (a : α) : shortHex r ≠ .ok a := by
  unfold shortHex
  split_ifs <;> simp

/-- one spelling is read as its character -/
theorem stringBody_written {t : List Char} {c : Char} (h : Written t c) (r : List Char) :
    stringBody (t ++ r) = prepend c (stringBody r) := by
  cases h with
  | plain h1 h2 h3 =>
    have h4 : ¬ c.toNat < 32 := Nat.not_lt.2 h3
    simp only [List.cons_append, List.nil_append]
    rw [stringBody.eq_def]
    split <;> grind
  | short hx =>
    rename_i d
    have hd : d ≠ 'u' := by
      rintro rfl
      cases hx
    simp only [List.cons_append, List.nil_append]
    rw [stringBody.eq_def]
    split <;> grind
  | code hn h1 h2 => simp [stringBody, hn, h1, h2]
  | pair hn h1 h2 hm h3 => simp [stringBody, hn, h1, h2, hm, h3]

/-- what follows a body is read as if it stood alone, whether it is read in the end or not -/
theorem stringBody_append {t s : List Char} (h : Body t s) (r : List Char) :
    stringBody (t ++ r) = (stringBody r).map fun p => (s ++ p.1, p.2) := by
  induction h with
  | nil =>
    rw [List.nil_append]
    cases stringBody r <;> rfl
  | cons hw _ ih =>
    rw [List.append_assoc, stringBody_written hw, ih]
    cases stringBody r <;> rfl

/-- **Bodies are read.** -/
theorem stringBody_of_body {t s : List Char} (h : Body t s) (r : List Char) :
    stringBody (t ++ '"' :: r) = .ok (s, r) := by
  rw [stringBody_append h, stringBody, Except.map, List.append_nil]

theorem ne_of_control {c d : Char} (hc : c.toNat < 32) (hd : 32 ≤ d.toNat) : c ≠ d := by
  rintro rfl
  exact Nat.not_lt.2 hd hc

/-- the reader stops on a control character -/
theorem stringBody_control {c : Char} (h : c.toNat < 32) (r : List Char) :
    stringBody (c :: r) = stopOn .controlInString (c :: r) := by
  have hquote : c ≠ '"' := ne_of_control h (by decide)
  have hslash : c ≠ '\\' := ne_of_control h (by decide)
  rw [stringBody.eq_def]
  split <;> grind

theorem prepend_eq_ok {c : Char} {x : Except Stop (List Char × List Char)} {s r : List Char}
    (h : prepend c x = .ok (s, r)) : ∃ s', s = c :: s' ∧ x = .ok (s', r) := by
  unfold prepend at h
  split at h
  · cases h
    exact ⟨_, rfl, rfl⟩
  · cases h

/-- a spelling in front of a body that has been read -/
theorem body_of_prepend {t cs s r : List Char} {c : Char} (hw : Written t c)
    (ih : ∀ s, stringBody cs = .ok (s, r) → ∃ u, Body u s ∧ cs = u ++ '"' :: r)
    (h : prepend c (stringBody cs) = .ok (s, r)) : ∃ u, Body u s ∧ t ++ cs = u ++ '"' :: r := by
  obtain ⟨s', rfl, hs⟩ := prepend_eq_ok h
  obtain ⟨u, hu, rfl⟩ := ih s' hs
  exact ⟨t ++ u, Body.cons hw hu, by rw [List.append_assoc]⟩

/-- **Only bodies are read.** -/
theorem body_of_stringBody {cs s r : List Char} (h : stringBody cs = .ok (s, r)) :
    ∃ t, Body t s ∧ cs = t ++ '"' :: r := by
  fun_induction stringBody cs generalizing s
  case case2 =>
    cases h
    exact ⟨[], Body.nil, rfl⟩
  case case9 hn h1 h2 _ _ _ _ _ _ hm h3 ih =>
    exact body_of_prepend (Written.pair hn (by simpa using h1) h2 hm h3) (fun s hs => ih hs) h
  case case14 hn h1 h2 ih =>
    exact body_of_prepend (Written.code hn (by simpa using h1) (by simpa using h2)) (fun s hs => ih hs) h
  case case16 hx ih =>
    exact body_of_prepend (Written.short hx) (fun s hs => ih hs) h
  case case19 c r h1 h2 _ _ h3 h4 ih =>
    have hc : c ≠ '\\' := by
      rintro rfl
      cases r with
      | nil => exact h2 rfl rfl
      | cons x r => exact h3 x r rfl rfl
    exact body_of_prepend (Written.plain h1 hc (Nat.not_lt.1 h4)) (fun s hs => ih hs) h
  -- everything else is a stop
  all_goals simp at h

/-! ## Writers -/

theorem hexValue?_hexDigit : ∀ n < 16, Digits.hexValue? (hexDigit n) = some n := by decide

/-- every character is spelled by the printer -/
theorem written_escapeChar (c : Char) : Written (escapeChar c) c := by
  unfold escapeChar
  split_ifs with h1 h2 h3 h4 h5 h6 h7 h8
  · subst h1; exact Written.short (by decide)
  · subst h2; exact Written.short (by decide)
  · subst h3; exact Written.short (by decide)
  · subst h4; exact Written.short (by decide)
  · subst h5; exact Written.short (by decide)
  · subst h6; exact Written.short (by decide)
  · subst h7; exact Written.short (by decide)
  · -- a control character: its number, written with four digits
    have hv : hexValue4? '0' '0' (hexDigit (c.toNat / 16)) (hexDigit (c.toNat % 16)) = some c.toNat := by
      have hz : Digits.hexValue? '0' = some 0 := by decide
      simp only [hexValue4?, hz, hexValue?_hexDigit _ (show c.toNat / 16 < 16 by omega),
        hexValue?_hexDigit _ (show c.toNat % 16 < 16 by omega), Option.bind_eq_bind, Option.bind_some,
        Option.pure_def, Option.some.injEq]
      omega
    have hw := Written.code hv (by simp [isTrailing]; omega) (by simp [isLeading]; omega)
    rwa [Char.ofNat_toNat] at hw
  · exact Written.plain h1 h2 (Nat.not_lt.1 h8)

/-- what the printer writes between quotes -/
theorem body_quote (s : List Char) : Body (s.flatMap escapeChar) s := body_flatMap fun c _ => written_escapeChar c

end CommentDigest.Json
