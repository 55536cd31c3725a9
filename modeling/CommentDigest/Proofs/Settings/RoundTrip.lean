/-
Reading settings undoes writing them, and what is missing takes its default.

A document of settings without some fields is an object in which every other field holds what the settings hold in it.
Its order, its layout and its other members are of no account: it reads as the settings with defaults in the fields that
are left out.

- `Kind.spelled_of_prints`: however a value is written, the text spells it
- `Document`, `parse_document`: documents without some fields, and what they are read as
- `document_of_arranged`: members that are printed in any order, among others, are such a document
- `parse_settings`: what is read of documents, of an array of the values, and of changes to a preset
-/
import CommentDigest.Proofs.Settings.Reading
import Mathlib.Data.List.Nodup

namespace CommentDigest

open Json Json.Read

/-! ## What is written -/

theorem HeaderTemplate.spelled_of_prints {f : Json → List Char} (hf : Prints f) (h : HeaderTemplate) :
    Spelled (f h.toJson) h := by
  have hparts := (lossless_object.1 h.lossless_toJson).2
  obtain ⟨ws, u, g, hu, hws, hg, hmembers⟩ := hf.object hparts
  rw [show f h.toJson = ws ++ '{' :: u from hu]
  exact spelled_of_texts (fun s => hg.spells (lossless_string s)) hws hmembers

namespace Settings

/-- **However a value is written, the text spells it.** -/
theorem Kind.spelled_of_prints {f : Json → List Char} (hf : Prints f) (k : Kind) (a : k.Value) :
    k.Spelled (f (k.toJson a)) a := by
  cases k with
  | headers =>
    have hheaders := lossless_array.1 (Kind.lossless_toJson .headers a)
    obtain ⟨ws, u, g, hu, hws, hg, hitems⟩ := hf.array hheaders
    refine ⟨ws, u, _, hws, hu, hitems, ?_⟩
    rw [List.map_map, List.forall₂_map_left_iff]
    exact List.forall₂_same.2 fun h _ => HeaderTemplate.spelled_of_prints hg h
  | text | optionalText | optionalPath | int64 | uint64 | uint32 => exact ⟨2, hf.spells (Kind.lossless_toJson _ a)⟩

/-! ## Documents -/

/-- an object in which every field holds what the settings hold in it, apart from some fields that are left out -/
def Document (s : Settings) (left : List Field) (text : String) : Prop :=
  ∃ ws t ws' ts, Blanks ws ∧ Blanks ws' ∧ text.toList = ws ++ '{' :: t ++ ws' ∧ MemberTexts true t ts ∧ s.Shows ts ∧
    ∀ f : Field, f.name ∈ Assoc.names ts ↔ f ∉ left

/-- **What is left out takes its default.** -/
theorem parse_document {s : Settings} {left : List Field} {text : String} (h : s.Document left text) :
    ∃ s', Settings.parse text = .ok s' ∧
      ∀ f, s'.get f = if f ∈ left then (ofPreset .openai).get f else s.get f := by
  obtain ⟨ws, t, ws', ts, hws, hws', htext, hmembers, hshows, hleft⟩ := h
  obtain ⟨s', hread, hget⟩ := reads_object hws hmembers hshows
  refine ⟨s', parse_of_reads htext hws' hread, fun f => (hget f).trans ?_⟩
  by_cases hf : f ∈ left
  · rw [if_pos hf, if_neg (mt (hleft f).1 (not_not_intro hf))]
  · rw [if_neg hf, if_pos ((hleft f).2 hf)]

/-- the members of settings for some of the fields -/
def membersOf (s : Settings) (fields : List Field) : Members := fields.map fun f => (f.name, f.kind.toJson (s.get f))

theorem mem_membersOf {s : Settings} {fields : List Field} {m : String × Json} (h : m ∈ s.membersOf fields) :
    ∃ f ∈ fields, m = (f.name, f.kind.toJson (s.get f)) := by
  obtain ⟨f, hf, rfl⟩ := List.mem_map.1 h
  exact ⟨f, hf, rfl⟩

theorem names_membersOf (s : Settings) (fields : List Field) :
    Assoc.names (s.membersOf fields) = fields.map Field.name := by
  rw [Assoc.names, membersOf, List.map_map]
  rfl

/-- the members of settings for all fields that are not left out, and others that are not called like a field, in any
order -/
structure Arranged (s : Settings) (left : List Field) (others : Members) (levels : Nat) (ms : Members) : Prop where
  perm : ms.Perm (s.membersOf (Field.all.filter (· ∉ left)) ++ others)
  unknown : ∀ m ∈ others, Field.ofName? m.1 = none ∧ Lossless levels m.2

section

variable {print : Json → List Char} {s : Settings} {left : List Field} {ms others : Members} {n : Nat}

theorem Arranged.cases (h : s.Arranged left others n ms) {m : String × Json} (hm : m ∈ ms) :
    (∃ f : Field, m = (f.name, f.kind.toJson (s.get f))) ∨ Field.ofName? m.1 = none ∧ Lossless n m.2 := by
  rcases List.mem_append.1 (h.perm.mem_iff.1 hm) with hfield | hother
  · obtain ⟨f, -, rfl⟩ := mem_membersOf hfield
    exact .inl ⟨f, rfl⟩
  · exact .inr (h.unknown m hother)

theorem Arranged.lossless (h : s.Arranged left others n ms) : ∀ m ∈ ms, Lossless (max 2 n) m.2 := by
  intro m hm
  rcases h.cases hm with ⟨f, rfl⟩ | ⟨-, hm⟩
  · exact (f.kind.lossless_toJson (s.get f)).mono (le_max_left 2 n)
  · exact hm.mono (le_max_right 2 n)

/-- a field is there exactly as often as it is in the list of fields that are not left out -/
theorem Arranged.count_name (h : s.Arranged left others n ms) (f : Field) :
    (Assoc.names ms).count f.name = ((Field.all.filter (· ∉ left)).map Field.name).count f.name := by
  have hother : f.name ∉ Assoc.names others := by
    intro hmem
    obtain ⟨m, hm, hname⟩ := List.mem_map.1 hmem
    exact ofName?_eq_none_iff.1 (h.unknown m hm).1 f hname.symm
  rw [Assoc.names, (h.perm.map Prod.fst).count_eq, List.map_append, List.count_append, ← Assoc.names, ← Assoc.names,
    List.count_eq_zero.2 hother, names_membersOf, Nat.add_zero]

theorem Arranged.count_name_le (h : s.Arranged left others n ms) (f : Field) :
    (Assoc.names ms).count f.name ≤ 1 := by
  have hsub : ((Field.all.filter (· ∉ left)).map Field.name).Sublist (Field.all.map Field.name) :=
    List.filter_sublist.map Field.name
  rw [h.count_name]
  exact List.nodup_iff_count_le_one.1 (nodup_names.sublist hsub) f.name

theorem Arranged.mem_names_iff (h : s.Arranged left others n ms) (f : Field) :
    f.name ∈ Assoc.names ms ↔ f ∉ left := by
  rw [← List.count_pos_iff, h.count_name, List.count_pos_iff, List.mem_map_of_injective name_injective, List.mem_filter]
  simp [mem_all f]

/-- **An object of such members is a document**, however it is printed. -/
theorem document_of_arranged (hprint : Prints print) (h : s.Arranged left others n ms) {ws : List Char}
    (hws : Blanks ws) : s.Document left (String.ofList (print (.object ms) ++ ws)) := by
  obtain ⟨ws', t, g, ht, hws', hg, hmembers⟩ := hprint.object h.lossless
  have hnames : Assoc.names (ms.map fun m => (m.1, g m.2)) = Assoc.names ms := by
    rw [Assoc.names, List.map_map]
    rfl
  have hshows : s.Shows (ms.map fun m => (m.1, g m.2)) := by
    refine ⟨fun p hp f hname => ?_, fun f => hnames ▸ h.count_name_le f⟩
    obtain ⟨m, hm, rfl⟩ := List.mem_map.1 hp
    rcases h.cases hm with ⟨f', rfl⟩ | ⟨hnone, -⟩
    · obtain rfl := name_injective hname
      exact Kind.spelled_of_prints hg f.kind (s.get f)
    · exact absurd hname (ofName?_eq_none_iff.1 hnone f)
  exact ⟨ws', t, ws, _, hws', hws, by rw [String.toList_ofList, ht], hmembers, hshows,
    fun f => hnames ▸ h.mem_names_iff f⟩

/-- the values of all fields, printed as an array -/
theorem parse_printed_array (hprint : Prints print) {ws : List Char} (hws : Blanks ws) :
    Settings.parse (String.ofList (print (.array (Field.all.map fun f => f.kind.toJson (s.get f))) ++ ws)) = .ok s := by
  have hvalues : ∀ x ∈ Field.all.map fun f => f.kind.toJson (s.get f), Lossless 2 x := by
    intro x hx
    obtain ⟨f, -, rfl⟩ := List.mem_map.1 hx
    exact f.kind.lossless_toJson (s.get f)
  obtain ⟨ws', t, g, ht, hws', hg, hitems⟩ := hprint.array hvalues
  have hread : ReadsAs Settings.read (ws' ++ '[' :: t) s := by
    refine reads_array hws' hitems ?_
    rw [List.map_map, List.forall₂_map_left_iff]
    exact List.forall₂_same.2 fun f _ => Kind.spelled_of_prints hg f.kind (s.get f)
  exact parse_of_reads (by rw [String.toList_ofList, ht]) hws hread

/-- settings that are printed with all fields -/
theorem parse_printed (hprint : Prints print) {ws : List Char} (hws : Blanks ws) :
    Settings.parse (String.ofList (print s.toJson ++ ws)) = .ok s := by
  have hall : Field.all.filter (· ∉ []) = Field.all := List.filter_eq_self.2 fun f _ => by simp
  have harranged : s.Arranged [] [] 0 (s.membersOf Field.all) :=
    ⟨by rw [hall, List.append_nil], fun _ hm => absurd hm List.not_mem_nil⟩
  obtain ⟨s', hparse, hget⟩ := parse_document (document_of_arranged hprint harranged hws)
  obtain rfl : s' = s := ext_get fun f => (hget f).trans (if_neg List.not_mem_nil)
  exact hparse

end

/-! ## What is read -/

/-- **Reading settings undoes writing them.** Settings that are printed in any way read back as they are, as an object
of all fields and as an array of their values. Without some fields, in any order and layout and among any other members,
they read back with the defaults in the fields that are left out. Changes to a preset replace the fields that they name
and no others. -/
theorem parse_settings (s : Settings) :
    (∀ print, Prints print → ∀ ws, Blanks ws →
      Settings.parse (String.ofList (print s.toJson ++ ws)) = .ok s ∧
        Settings.parse (String.ofList (print (.array (Field.all.map fun f => f.kind.toJson (s.get f))) ++ ws)) =
          .ok s) ∧
    (∀ left text, s.Document left text →
      ∃ s', Settings.parse text = .ok s' ∧
        ∀ f, s'.get f = if f ∈ left then (ofPreset .openai).get f else s.get f) ∧
    ∀ p changes, overlay p changes = .ok s ↔
      ∀ f : Field, match Members.get? (Members.ofList changes) f.name with
        | none => s.get f = (ofPreset p).get f
        | some v => f.kind.decode v = .ok (s.get f) := by
  refine ⟨fun print hprint ws hws => ⟨parse_printed hprint hws, parse_printed_array hprint hws⟩, fun left text =>
    parse_document, fun p changes => overlay_eq_ok_iff.trans (forall_congr' fun f => ?_)⟩
  cases Members.get? (Members.ofList changes) f.name with
  | none => exact ⟨fun h => (Except.ok.inj h).symm, fun h => congrArg Except.ok h.symm⟩
  | some v => exact Iff.rfl

/-- settings, of which a document has two fields -/
def sample : Settings := { ofPreset .ollama with maxRetries := 7, cookie := some "007" }

def sampleLeft : List Field := Field.all.filter fun f => f ≠ .cookie ∧ f ≠ .maxRetries

/-- two fields and an unknown member, out of order and indented -/
def sampleText : String :=
  "\x7b\n  \"max_retries\": 7,\n  \"theme\": [\n    true\n  ],\n  \"cookie\": \"007\"\n\x7d\n"

def sampleMembers : Members :=
  [("max_retries", .number (.int 7)), ("theme", .array [.bool true]), ("cookie", .string "007")]

theorem document_sample : sample.Document sampleLeft sampleText := by
  have harranged : sample.Arranged sampleLeft [("theme", .array [.bool true])] 1 sampleMembers := by
    refine ⟨by decide +kernel, fun m hm => ?_⟩
    rw [List.mem_singleton.1 hm]
    refine ⟨by decide, lossless_array.2 fun x hx => ?_⟩
    rw [List.mem_singleton.1 hx]
    exact ⟨Nat.zero_le _, everyObject_bool true, exact_bool true⟩
  have hnewline : Blanks ['\n'] := blanks_nil.cons (by decide)
  have htext : String.ofList (prettyChars 0 (.object sampleMembers) ++ ['\n']) = sampleText := by decide +kernel
  exact htext ▸ document_of_arranged (.indented 0) harranged hnewline

theorem parse_settings_sample :
    ∃ s', Settings.parse sampleText = .ok s' ∧ s'.maxRetries = 7 ∧ s'.cookie = some "007" ∧
      s'.apiUrl = Preset.openai.apiUrl := by
  obtain ⟨s', hparse, hget⟩ := (parse_settings sample).2.1 sampleLeft sampleText document_sample
  exact ⟨s', hparse, hget .maxRetries, hget .cookie, hget .apiUrl⟩

end Settings

end CommentDigest
