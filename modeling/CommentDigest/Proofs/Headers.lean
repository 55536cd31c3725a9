/-
The headers of a request.

Header names are compared without case. Templates of headers are resolved in order, and where a name comes again its
header stays where and as it first stood and takes the later value. So each class of names has one header: its place and
its spelling are those of the first template of the class, its value is that of the last.

- `sameHeader_equivalence`: the test of header names is an equivalence
- `names_fillHeaders`: the names of the headers
- `find?_fillHeaders`: the value of a class of names
- `fillHeaders_templates`: headers without placeholders are resolved already
- `fillHeaders_by_class`: all of this
-/
import CommentDigest.Proofs.Assoc
import CommentDigest.Proofs.Template.Named
import CommentDigest.Request

namespace CommentDigest

/-! ## Classes of names -/

theorem sameHeader_equivalence : Equivalence fun a b => sameHeader a b = true := by
  simp only [sameHeader, beq_iff_eq]
  exact ⟨fun _ => rfl, Eq.symm, Eq.trans⟩

theorem sameHeader_comm (a b : String) : sameHeader a b = sameHeader b a :=
  Bool.eq_iff_iff.2 ⟨sameHeader_equivalence.symm, sameHeader_equivalence.symm⟩

/-- the last template of a list whose name is in a class -/
def lastTemplate? (headers : List HeaderTemplate) (name : String) : Option HeaderTemplate :=
  headers.reverse.find? fun h => sameHeader h.name name

/-- the value of a template with a key put in -/
def HeaderTemplate.resolved (h : HeaderTemplate) (key : String) : String :=
  Template.fill h.value (.single "apiKey" key) .empty

/-- headers taken as templates -/
def Headers.templates (hs : Headers) : List HeaderTemplate := hs.map fun h => ⟨h.1, h.2⟩

/-! ## Resolving -/

section

variable (headers : List HeaderTemplate) (key : String)

theorem fillHeaders_eq :
    fillHeaders headers key = Assoc.collect sameHeader (headers.map fun h => (h.name, h.resolved key)) := rfl

/-- the names of the headers are those that come first in their class -/
theorem names_fillHeaders :
    Assoc.names (fillHeaders headers key) = (headers.map HeaderTemplate.name).eraseDupsBy sameHeader := by
  rw [fillHeaders_eq, Assoc.names_collect sameHeader_comm, Assoc.names, List.map_map]
  rfl

/-- a class of names has the value of its last template -/
theorem find?_fillHeaders (name : String) :
    Assoc.find? sameHeader name (fillHeaders headers key) = (lastTemplate? headers name).map (·.resolved key) := by
  rw [fillHeaders_eq, Assoc.find?_collect sameHeader_equivalence, ← List.map_reverse, Assoc.find?, List.find?_map,
    Option.map_map]
  rfl

/-- headers whose names are apart and whose values have no placeholders are resolved already -/
theorem fillHeaders_templates {hs : Headers} (hapart : Assoc.Apart sameHeader hs)
    (hplain : ∀ h ∈ hs, ∀ i p, ¬ Template.Occurs .named h.2.toList i p) : fillHeaders hs.templates key = hs := by
  have hsame : (hs.templates.map fun h => (h.name, h.resolved key)) = hs := by
    rw [Headers.templates, List.map_map]
    refine (List.map_congr_left fun h hh => ?_).trans (List.map_id hs)
    exact Prod.ext rfl (Template.fill_of_not_occurs _ (hplain h hh))
  rw [fillHeaders_eq, hsame, Assoc.collect_of_apart hapart]

end

/-- **One header for each class of names.** No two headers have names that differ in case only. The names of the headers
are the first of each class, in order and as they are spelled there, and the value of a header is that of the last
template of its class with the key put in. Headers whose values have no placeholders come out of themselves, whatever
the key is. -/
theorem fillHeaders_by_class (headers : List HeaderTemplate) (key : String) :
    (Assoc.names (fillHeaders headers key)).Pairwise (fun a b => sameHeader a b = false) ∧
    Assoc.names (fillHeaders headers key) = (headers.map HeaderTemplate.name).eraseDupsBy sameHeader ∧
    (∀ h ∈ fillHeaders headers key, ∃ t, lastTemplate? headers h.1 = some t ∧ h.2 = t.resolved key) ∧
    ((∀ h ∈ fillHeaders headers key, ∀ i p, ¬ Template.Occurs .named h.2.toList i p) →
      ∀ key', fillHeaders (Headers.templates (fillHeaders headers key)) key' = fillHeaders headers key) := by
  have hapart : Assoc.Apart sameHeader (fillHeaders headers key) := Assoc.apart_collect _ _
  refine ⟨hapart, names_fillHeaders headers key, fun h hh => ?_, fun hplain key' => ?_⟩
  · have hfound := Assoc.find?_of_mem sameHeader_equivalence.refl hapart hh
    rw [find?_fillHeaders] at hfound
    obtain ⟨t, ht, hvalue⟩ := Option.map_eq_some_iff.1 hfound
    exact ⟨t, ht, hvalue.symm⟩
  · exact fillHeaders_templates key' hapart hplain

/-- a name in three spellings around another one, and a name that only looks alike -/
theorem fillHeaders_by_class_mixed :
    let headers : List HeaderTemplate :=
      [⟨"X-Key", "a"⟩, ⟨"Accept", "\x7b$other\x7d*"⟩, ⟨"x-key", "b"⟩, ⟨"x_key", "c"⟩, ⟨"X-KEY", "k \x7b$apiKey\x7d"⟩]
    let hs := fillHeaders headers "s"
    Assoc.names hs = ["X-Key", "Accept", "x_key"] ∧ ("X-Key", "k s") ∈ hs ∧
      (∃ t, lastTemplate? headers "X-Key" = some t ∧ "k s" = t.resolved "s") ∧
      (∀ h ∈ hs, ∀ i p, ¬ Template.Occurs .named h.2.toList i p) ∧ fillHeaders (Headers.templates hs) "t" = hs := by
  intro headers hs
  have hheaders : hs = [("X-Key", "k s"), ("Accept", "*"), ("x_key", "c")] := by decide +kernel
  have hmem : ("X-Key", "k s") ∈ hs := hheaders ▸ List.mem_cons_self
  have hpieces : ∀ h ∈ hs, (Template.cutOf (Template.tokens .named h.2.toList)).pieces = [] := by
    rw [hheaders]
    decide +kernel
  have hplain : ∀ h ∈ hs, ∀ i p, ¬ Template.Occurs .named h.2.toList i p :=
    fun h hh => Template.not_occurs_of_pieces (hpieces h hh)
  obtain ⟨-, hnames, hvalues, hagain⟩ := fillHeaders_by_class headers "s"
  exact ⟨hnames.trans (by decide), hmem, hvalues _ hmem, hplain, hagain hplain "t"⟩

end CommentDigest
