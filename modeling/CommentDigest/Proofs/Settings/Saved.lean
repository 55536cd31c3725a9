/-
Settings that were saved to a file are loaded from it again.

The text of the file parses as what was written, its layer is plain and has a value for every field, and each value
converts back to what it was written from. So it makes no difference which preset lies below, as long as no variable
speaks about settings. A number that takes more than 63 bits does not come back: it would be a float in the layer.

- `layerOfText_printed`: the layer of a file that settings were printed to
- `load_of_layer`: what is loaded from it
- `load_saved`: saved settings
-/
import CommentDigest.Cli.Run
import CommentDigest.Proofs.Settings.Json
import CommentDigest.Proofs.Settings.Precedence

namespace CommentDigest.Settings

open Json

/-! ## The layer of the file -/

theorem layerOfText_printed {print : Json → List Char} (hprint : Prints print) {ws : List Char} (hws : Blanks ws)
    (source : String) (s : Settings) :
    layerOfText source .json (String.ofList (print s.toJson ++ ws)) =
      .ok (Tree.ofJson (some source) s.toJson).entries := by
  have hspells := hprint.spells (s.lossless_toJson.mono (show 3 ≤ Read.maxLevels by decide))
  have hparse : Json.parse (String.ofList (print s.toJson ++ ws)) = .ok s.toJson :=
    parse_eq_ok_iff.2 ⟨_, ws, String.toList_ofList, hspells, hws⟩
  simp only [layerOfText, hparse]

theorem isIdentifier_name (f : Field) : IsIdentifier f.name := by cases f <;> decide

namespace Sources

variable {src : Sources} {s : Settings} {source : Option String}

/-- no variable speaks about settings -/
def Silent (src : Sources) : Prop := ∀ x ∈ src.env ++ src.lines, variableKey? x.1 = none

theorem lines_of_absent (h : Environment.nearestText? src.tree = none) : src.lines = [] := by
  rw [lines, h]
  rfl

theorem Silent.get?_eq_none {env : Environment} (h : ∀ x ∈ env, variableKey? x.1 = none) (f : Field) :
    env.get? f.variableName = none := by
  refine Assoc.find?_of_notMem fun hmem => ?_
  obtain ⟨x, hx, hname⟩ := List.mem_map.1 hmem
  have hkey := h x hx
  rw [hname, variableKey?_variableName] at hkey
  cases hkey

theorem tidy_of_layer (hsilent : src.Silent) (hlayer : src.layer = (Tree.ofJson source s.toJson).entries) :
    src.Tidy where
  upper x hx hkey := by
    rw [hsilent x hx] at hkey
    cases hkey
  once := by
    refine List.pairwise_iff_forall_sublist.2 fun {x y} hpair hkey => ?_
    have hx : x ∈ src.env := hpair.subset List.mem_cons_self
    have hnone := hsilent x (List.mem_append_left _ hx)
    simp only [hnone, Option.isSome_none, Bool.false_eq_true] at hkey
  keys e he := by
    have hflat := (plain_entries source s).flat e (hlayer ▸ he)
    rw [hlayer, entries_toJson] at he
    obtain ⟨f, -, rfl⟩ := List.mem_map.1 he
    exact ⟨isIdentifier_name f, hflat⟩
  nodup := hlayer ▸ (plain_entries source s).nodup

/-- every field has the value of the file -/
theorem value?_of_layer (hsilent : src.Silent) (hlayer : src.layer = (Tree.ofJson source s.toJson).entries) (f : Field) :
    src.value? f = some (Tree.ofJson source (f.kind.toJson (s.get f))) := by
  have henv := Silent.get?_eq_none (fun x hx => hsilent x (List.mem_append_left _ hx)) f
  have hlines := Silent.get?_eq_none (fun x hx => hsilent x (List.mem_append_right _ hx)) f
  rw [value?, henv, hlines, hlayer, find?_entries]
  rfl

theorem fits_of_timeout (h : s.timeoutSecs.toNat < twoTo 63) (f : Field) : f.kind.Fits (s.get f) := by
  cases f with
  | timeoutSecs => exact h
  | _ => exact trivial

/-- **A layer that settings were written to gives them back.** -/
theorem load_of_layer (hsilent : src.Silent)
    (hfile : fileFrom src.tree src.file? = .ok (Tree.ofJson source s.toJson).entries) (hcheck : s.check = .ok ())
    (htimeout : s.timeoutSecs.toNat < twoTo 63) : src.load = .ok s := by
  have hlayer : src.layer = (Tree.ofJson source s.toJson).entries := by rw [layer, hfile]
  have htidy := tidy_of_layer hsilent hlayer
  have hvalue := value?_of_layer hsilent hlayer
  have hback := fun f => ofTree_ofJson source (fits_of_timeout htimeout f)
  have hsame : ∀ s', (∀ f, src.Gives f (Settings.get s' f)) → s' = s := by
    intro s' hgives
    refine ext_get fun f => ?_
    have h := (gives_iff src f _).1 (hgives f)
    rw [hvalue, Option.getD_some, hback] at h
    exact (Except.ok.inj h).symm
  have hsources :
      src.load = ofSources src.preset src.layer (src.env.withText (Environment.nearestText? src.tree)) := by
    rw [load, loadFrom_eq, layer, hfile]
  cases hload : src.load with
  | ok s' => rw [hsame s' (gives_of_load htidy hload)]
  | error e =>
    rcases cases_of_ofSources_error (hsources.symm.trans hload) with ⟨m, hm, -⟩ | ⟨s', hs', hrefused⟩
    · -- every value of the file converts
      obtain ⟨f, v, m', hentry, hv, -⟩ := misfit_of_ofTree hm
      rw [← merged, entry?_sources htidy, hvalue, Option.getD_some, Option.some.injEq] at hentry
      rw [← hentry, hback] at hv
      cases hv
    · obtain rfl := hsame s' (gives_of_ofTree htidy hs')
      rw [hcheck] at hrefused
      cases hrefused

/-- **Saved settings.** Settings that pass the check and whose time limit fits into 63 bits are loaded, whatever the
preset, from a file with a name for JSON that they were printed to, compact or as the program prints settings. No
variable may speak about settings. -/
theorem load_saved {name text : String} (hname : src.file? = some name) (hformat : Format.ofName? name = some .json)
    (htext : src.tree.fileText? name = some text) (hsaved : text = s.toJson.render ∨ text = Cli.printed s.toJson)
    (hsilent : src.Silent) (hcheck : s.check = .ok ()) (htimeout : s.timeoutSecs.toNat < twoTo 63) :
    src.load = .ok s := by
  have hprinted : ∃ print ws, Prints print ∧ Blanks ws ∧ text = String.ofList (print s.toJson ++ ws) := by
    rcases hsaved with rfl | rfl
    · exact ⟨chars, [], .compact, blanks_nil, by rw [List.append_nil, render]⟩
    · refine ⟨prettyChars 0, ['\n'], .indented 0, blanks_nil.cons (by decide), ?_⟩
      rw [Cli.printed, renderPretty, String.ofList_append]
  obtain ⟨print, ws, hprint, hws, rfl⟩ := hprinted
  have hfound : found src.tree name = .ok (name, .json) := by
    unfold FileTree.fileText? at htext
    rw [found]
    cases hnode : src.tree.node? name with
    | none => rw [hnode] at htext; cases htext
    | some node =>
      cases node with
      | directory => rw [hnode] at htext; cases htext
      | file _ => simp only [hformat]
  have hfile : fileFrom src.tree src.file? =
      .ok (Tree.ofJson (some (Files.relative src.tree.currentName name)) s.toJson).entries := by
    rw [hname, fileFrom, hfound]
    simp only [FileTree.read_of_fileText? htext]
    exact layerOfText_printed hprint hws _ s
  exact load_of_layer hsilent hfile hcheck htimeout

/-- settings with an empty list of headers and texts that look like other values -/
def lookalike : Settings :=
  { ofPreset .openai with
    apiKey := "007", cookie := some "true", logDir := some "null", headers := [], payload := "1",
    mapping := "\x7b\x7d", maxComments := -9223372036854775808, timeoutSecs := 9223372036854775807 }

/-- a file that they were saved to, and another preset -/
def saved : Sources where
  tree := ⟨[(["s.json"], .file (Cli.printed lookalike.toJson))], []⟩
  env := [("PATH", "/bin")]
  file? := some "s.json"
  preset := .ollama

theorem load_saved_lookalike : saved.Silent ∧ lookalike.check = .ok () ∧ saved.load = .ok lookalike := by
  have hlines : saved.lines = [] := lines_of_absent (by decide +kernel)
  have hsilent : saved.Silent := by
    rw [Silent, hlines]
    decide +kernel
  have htext : saved.tree.fileText? "s.json" = some (Cli.printed lookalike.toJson) := by
    -- the text itself need not be worked out
    have hplace : saved.tree.resolve "s.json" = .ok ["s.json"] := by decide +kernel
    rw [FileTree.fileText?, FileTree.node?, hplace]
    rfl
  have hcheck : lookalike.check = .ok () := by decide +kernel
  exact ⟨hsilent, hcheck, load_saved rfl (by decide +kernel) htext (.inr rfl) hsilent hcheck (by decide)⟩

end Sources

end CommentDigest.Settings
