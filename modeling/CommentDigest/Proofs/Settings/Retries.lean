/-
The number of attempts, from the text of a source to the settings.

A number of attempts is read with 64 bits, its low 32 bits are kept, and what is kept is checked. So the settings have
the number itself exactly if it has no more than 32 bits; of a longer one they have what is left, if that is in the
range.

- `retries_of_load`: the number in the settings, from the number in the merged sources
- `long_number_accepted`: a number that is cut down into the range
-/
import CommentDigest.Proofs.Settings.Check
import CommentDigest.Proofs.Settings.Precedence

namespace CommentDigest.Settings

variable {src : Sources} {s : Settings}

/-- a number without sign, of which the low 32 bits are kept -/
theorem ofTree_uint32 {v : Tree} {a : Kind.Value .uint32} (h : Kind.ofTree .uint32 v = .ok a) :
    ∃ n, v.toNat = .ok n ∧ UInt32.toNat a = n % twoTo 32 := by
  rw [Kind.ofTree] at h
  cases hn : v.toNat with
  | error m => rw [hn] at h; cases h
  | ok n =>
    rw [hn] at h
    obtain rfl : UInt32.ofNat n = a := Except.ok.inj h
    exact ⟨n, rfl, UInt32.toNat_ofNat'⟩

theorem toNat_int {origin : Option String} {i : Int} {n : Nat} (h : Tree.toNat (.leaf origin (.int i)) = .ok n) :
    i = n := by
  rw [Tree.toNat] at h
  by_cases hi : 0 ≤ i
  · rw [if_pos hi] at h
    rw [← Except.ok.inj h, Int.toNat_of_nonneg hi]
  · rw [if_neg hi] at h
    cases h

/-- **The number of attempts.** Settings that are loaded have the low 32 bits of the number that the sources give for
their attempts, an integer being that number itself, and these lie in the range of the check. So the settings have the
number itself, in the range, exactly if it fits into 32 bits. -/
theorem retries_of_load {v : Tree} (h : src.load = .ok s)
    (hvalue : src.merged.entry? Field.maxRetries.name = some v) :
    ∃ n : Nat, v.toNat = .ok n ∧ (∀ origin i, v = .leaf origin (.int i) → i = n) ∧
      s.maxRetries.toNat = n % twoTo 32 ∧ 1 ≤ s.maxRetries.toNat ∧ s.maxRetries.toNat ≤ retryLimit.toNat ∧
      ((1 ≤ n ∧ n ≤ retryLimit.toNat ∧ s.maxRetries.toNat = n) ↔ n < twoTo 32) := by
  obtain ⟨htree, hcheck⟩ := Sources.ofTree_of_load h
  -- the layers themselves no longer matter
  generalize src.merged = t at htree hvalue
  have htaken := taken_of_ofTree htree .maxRetries
  rw [Taken, hvalue] at htaken
  obtain ⟨n, hn, hlow⟩ := ofTree_uint32 htaken
  have hlow : s.maxRetries.toNat = n % twoTo 32 := hlow
  obtain ⟨hpos, hle⟩ := ((flaw?_eq_none_iff s).1 ((check_eq_ok_iff s).1 hcheck)).1.retries_range
  have hlimit : retryLimit.toNat < twoTo 32 := by decide
  refine ⟨n, hn, ?_, hlow, hpos, hle, ?_, fun hshort => ?_⟩
  · rintro origin i rfl
    exact toNat_int hn
  · rintro ⟨-, hmax, -⟩
    exact hmax.trans_lt hlimit
  · have hsame : s.maxRetries.toNat = n := hlow.trans (Nat.mod_eq_of_lt hshort)
    exact ⟨hsame ▸ hpos, hsame ▸ hle, hsame⟩

/-- a number of attempts that is three more than 32 bits can count -/
def longNumber : Sources := ⟨noFiles, [("PEEKABOO_MAX_RETRIES", "4294967299")], none, .ollama⟩

theorem load_longNumber : longNumber.load.toOption.map (·.maxRetries) = some 3 := by decide +kernel

theorem tidy_longNumber : longNumber.Tidy where
  upper := by decide +kernel
  once := List.pairwise_singleton _ _
  keys := by decide +kernel
  nodup := by decide +kernel

theorem entry_longNumber : longNumber.merged.entry? Field.maxRetries.name =
    some (.leaf (some environmentName) (.int 4294967299)) := by
  have hspelled : Leaf.ofText "4294967299" = .int 4294967299 := by decide +kernel
  have hvariable : longNumber.env.get? Field.maxRetries.variableName = some "4294967299" := by decide +kernel
  rw [Sources.entry?_sources tidy_longNumber, Sources.value?, hvariable, ← hspelled]
  rfl

theorem retries_of_load_longNumber : ∃ s, longNumber.load = .ok s ∧
    longNumber.merged.entry? Field.maxRetries.name = some (.leaf (some environmentName) (.int 4294967299)) ∧
      ∃ n : Nat, 4294967299 = (n : Int) ∧ s.maxRetries.toNat = n % twoTo 32 := by
  have hone := load_longNumber
  cases hload : longNumber.load with
  | error e => rw [hload] at hone; cases hone
  | ok s =>
    obtain ⟨n, -, hinteger, hlow, -⟩ := retries_of_load hload entry_longNumber
    exact ⟨s, rfl, entry_longNumber, n, hinteger _ _ rfl, hlow⟩

/-- A number of attempts beyond the range is accepted when its low 32 bits lie in the range. -/
theorem long_number_accepted :
    ¬ ∀ (src : Sources) (s : Settings) (origin : Option String) (n : Int), src.load = .ok s →
      src.merged.entry? Field.maxRetries.name = some (.leaf origin (.int n)) →
        1 ≤ n ∧ n ≤ 10 ∧ (s.maxRetries.toNat : Int) = n := by
  intro h
  have hone := load_longNumber
  cases hload : longNumber.load with
  | error e => rw [hload] at hone; cases hone
  | ok s =>
    have hrange := (h longNumber s _ _ hload entry_longNumber).2.1
    exact absurd hrange (by decide)

end CommentDigest.Settings
