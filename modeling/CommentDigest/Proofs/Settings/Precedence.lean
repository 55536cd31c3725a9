/-
Which source decides about a setting.

The sources of settings are, from the highest on, the variables of the process, those that the nearest file of variables
assigns, the settings file and the preset. Where names are tidy, so that no two names of one source stand for the same
setting, a field holds what the highest source that mentions it says about it, whatever the sources say about other
fields.

- `entry?_sources`: the merged tree, in terms of the highest value
- `gives_of_load`, `headers_of_load`, `get_eq_of_agreeOn`: the settings that are loaded
- `refused_of_load`: why settings are not loaded
- `load_layered`: all of it
-/
import CommentDigest.Proofs.Settings.Convert
import CommentDigest.Proofs.Settings.File
import CommentDigest.Proofs.Settings.Names

namespace CommentDigest.Settings

/-- what settings are loaded from -/
structure Sources where
  tree : FileTree
  env : Environment
  /-- the name of the settings file -/
  file? : Option String
  preset : Preset

namespace Sources

def load (src : Sources) : Except DigestError Settings := loadFrom src.tree src.env src.file? src.preset

/-- what the nearest file of variables assigns, up to its first bad line -/
def lines (src : Sources) : Environment := src.env.assignedBy (Environment.nearestText? src.tree)

/-- what the settings file says; nothing, when it cannot be read -/
def layer (src : Sources) : Layer :=
  match fileFrom src.tree src.file? with
  | .ok layer => layer
  | .error _ => []

/-- no two names of one source stand for the same setting, and none for a part of one -/
structure Tidy (src : Sources) : Prop where
  upper : ∀ x ∈ src.env ++ src.lines, (variableKey? x.1).isSome → IsUpperName x.1
  once : src.env.Once fun name => (variableKey? name).isSome
  keys : ∀ e ∈ src.layer, IsIdentifier e.1 ∧ ¬ e.2.IsTable
  nodup : (Assoc.names src.layer).Nodup

/-- the highest value for a field above the preset -/
def value? (src : Sources) (f : Field) : Option Tree :=
  (((src.env.get? f.variableName).or (src.lines.get? f.variableName)).map spelled).or
    (Assoc.find? (· == ·) f.name src.layer)

/-- the field takes what the highest value converts to, or else the preset's value -/
def Gives (src : Sources) (f : Field) (a : f.kind.Value) : Prop :=
  match src.value? f with
  | some v => f.kind.ofTree v = .ok a
  | none => a = (ofPreset src.preset).get f

/-- every source says the same about a field -/
structure AgreeOn (src src' : Sources) (f : Field) : Prop where
  env : src.env.get? f.variableName = src'.env.get? f.variableName
  lines : src.lines.get? f.variableName = src'.lines.get? f.variableName
  file : Assoc.find? (· == ·) f.name src.layer = Assoc.find? (· == ·) f.name src'.layer
  preset : (ofPreset src.preset).get f = (ofPreset src'.preset).get f

/-! ## The merged tree -/

variable {src src' : Sources} {s s' : Settings}

theorem Tidy.orderly (h : src.Tidy) : Orderly (src.env.withText (Environment.nearestText? src.tree)) where
  upper x hx := h.upper x (List.mem_append.2 (Environment.mem_withText hx))
  once := Environment.once_withText h.once _

theorem Tidy.plain (h : src.Tidy) : Plain src.layer where
  name e he := ofText_identifier (h.keys e he).1
  flat e he := (h.keys e he).2
  nodup := h.nodup

/-- all layers merged -/
def merged (src : Sources) : Tree :=
  Tree.ofLayers [layerOf src.preset, src.layer, ofEnvironment (src.env.withText (Environment.nearestText? src.tree))]

theorem entry?_sources (h : src.Tidy) (f : Field) :
    src.merged.entry? f.name = some ((src.value? f).getD (presetTree src.preset f)) := by
  rw [merged, entry?_ofLayers src.preset h.plain (plain_ofEnvironment h.orderly), find?_ofEnvironment h.orderly,
    Environment.get?_withText]
  rfl

theorem gives_iff (src : Sources) (f : Field) (a : f.kind.Value) :
    src.Gives f a ↔ f.kind.ofTree ((src.value? f).getD (presetTree src.preset f)) = .ok a := by
  rw [Gives]
  cases src.value? f with
  | some v => exact Iff.rfl
  | none =>
    rw [Option.getD_none, ofTree_presetTree, Except.ok.injEq]
    exact eq_comm

theorem Gives.unique {f : Field} {a b : f.kind.Value} (ha : src.Gives f a) (hb : src.Gives f b) : a = b := by
  rw [gives_iff] at ha hb
  exact Except.ok.inj (ha.symm.trans hb)

theorem AgreeOn.gives {f : Field} {a : f.kind.Value} (h : src.AgreeOn src' f) (ha : src.Gives f a) :
    src'.Gives f a := by
  have hvalue : src'.value? f = src.value? f := by rw [value?, value?, h.env, h.lines, h.file]
  rw [Gives] at ha ⊢
  rw [hvalue, ← h.preset]
  exact ha

/-! ## Loading -/

theorem load_eq (src : Sources) :
    (∃ name e, src.file? = some name ∧ FileFault src.tree name e ∧ src.load = .error e) ∨
      src.load = ofSources src.preset src.layer (src.env.withText (Environment.nearestText? src.tree)) := by
  rw [load, loadFrom_eq, layer]
  cases hfile : fileFrom src.tree src.file? with
  | ok layer => exact .inr rfl
  | error e =>
    cases hname : src.file? with
    | none => rw [hname] at hfile; cases hfile
    | some name =>
      rw [hname] at hfile
      exact .inl ⟨name, e, rfl, fault_of_fileFrom hfile, rfl⟩

/-- every field of a merged tree is taken -/
theorem gives_of_ofTree (h : src.Tidy) (hs : ofTree src.merged = .ok s) (f : Field) : src.Gives f (s.get f) := by
  have hentry := entry?_sources h f
  -- the layers themselves no longer matter
  generalize src.merged = t at hs hentry
  have htaken := taken_of_ofTree hs f
  rw [Taken, hentry] at htaken
  exact (gives_iff src f _).2 htaken

/-- loaded settings come from the merged tree, and pass the check -/
theorem ofTree_of_load (hs : src.load = .ok s) : ofTree src.merged = .ok s ∧ s.check = .ok () := by
  rcases load_eq src with ⟨name, e, -, -, herror⟩ | hload
  · rw [herror] at hs
    cases hs
  · exact ofTree_of_ofSources (hload.symm.trans hs)

/-- loaded settings hold what the highest values give -/
theorem gives_of_load (h : src.Tidy) (hs : src.load = .ok s) (f : Field) : src.Gives f (s.get f) :=
  gives_of_ofTree h (ofTree_of_load hs).1 f

/-- loading says no because of the file, a value that does not fit, or the check -/
theorem refused_of_load (h : src.Tidy) {e : DigestError} (he : src.load = .error e) :
    (∃ name, src.file? = some name ∧ FileFault src.tree name e) ∨
      (∃ f v m, src.value? f = some v ∧ f.kind.ofTree v = .error m ∧
        e = .settings (some (Misfit.message (m.under f.name)))) ∨
      ∃ s : Settings, (∀ f, src.Gives f (s.get f)) ∧ s.check = .error e := by
  rcases load_eq src with ⟨name, e', hname, hfault, herror⟩ | hload
  · obtain rfl : e' = e := Except.error.inj (herror.symm.trans he)
    exact .inl ⟨name, hname, hfault⟩
  · rcases cases_of_ofSources_error (hload.symm.trans he) with ⟨m, hm, rfl⟩ | ⟨s, hs, hcheck⟩
    · obtain ⟨f, v, m', hentry, hv, rfl⟩ := misfit_of_ofTree hm
      refine .inr (.inl ⟨f, v, m', ?_, hv, rfl⟩)
      rw [← merged, entry?_sources h, Option.some.injEq] at hentry
      cases hvalue : src.value? f with
      | some w => exact congrArg some (by rw [← hentry, hvalue, Option.getD_some])
      | none =>
        -- a preset's value always fits
        rw [hvalue, Option.getD_none] at hentry
        rw [← hentry, ofTree_presetTree] at hv
        cases hv
    · exact .inr (.inr ⟨s, gives_of_ofTree h hs, hcheck⟩)

/-- a list of headers in the file is taken whole -/
theorem headers_of_load (h : src.Tidy) (hs : src.load = .ok s) {origin : Option String} {items : List Tree}
    (hfile : Assoc.find? (· == ·) Field.headers.name src.layer = some (.list origin items)) :
    List.Forall₂ (fun t h => t.toHeader = .ok h) items s.headers := by
  have hgives := gives_of_load h hs .headers
  rw [Gives, value?, hfile] at hgives
  cases hvariable : (src.env.get? Field.headers.variableName).or (src.lines.get? Field.headers.variableName) with
  | some v =>
    -- the text of a variable is no list
    rw [hvariable] at hgives
    cases hgives
  | none =>
    rw [hvariable] at hgives
    exact (Tree.toHeaders_eq_ok_iff origin items s.headers).1 hgives

/-- settings from sources that agree on a field agree on it -/
theorem get_eq_of_agreeOn (h : src.Tidy) (hs : src.load = .ok s) (h' : src'.Tidy) (hs' : src'.load = .ok s') {f : Field}
    (hagree : src.AgreeOn src' f) : s'.get f = s.get f :=
  (gives_of_load h' hs' f).unique (hagree.gives (gives_of_load h hs f))

/-- the file of variables in the current directory is the one that counts -/
theorem lines_of_current (src : Sources) (h : src.tree.HasCurrent) {text : String}
    (htext : src.tree.fileText? Environment.fileName = some text) :
    src.lines = Environment.assigned src.env [] (text.toList.splitOn '\n') := by
  rw [lines, Environment.nearestText?_of_current h htext]
  rfl

/-- **Precedence of sources.** Settings that are loaded from tidy sources hold in every field what the highest source
that mentions it converts to: the process, else the part of the file of variables before its first bad line, else the
settings file, else the preset. So a field is the same whenever the sources say the same about it, a list of headers in
the file takes the place of the preset's list, and a file of variables in the current directory is the one that counts.
Settings are refused only because of the file, because one of these values does not convert, or by the check on all of
them. -/
theorem load_layered (src : Sources) (h : src.Tidy) :
    (∀ s, src.load = .ok s →
      (∀ f, src.Gives f (s.get f)) ∧
      (∀ origin items, Assoc.find? (· == ·) Field.headers.name src.layer = some (.list origin items) →
        List.Forall₂ (fun t h => t.toHeader = .ok h) items s.headers) ∧
      ∀ src' s', src'.Tidy → src'.load = .ok s' → ∀ f, src.AgreeOn src' f → s'.get f = s.get f) ∧
    (∀ text, src.tree.HasCurrent → src.tree.fileText? Environment.fileName = some text →
      src.lines = Environment.assigned src.env [] (text.toList.splitOn '\n')) ∧
    ∀ e, src.load = .error e →
      (∃ name, src.file? = some name ∧ FileFault src.tree name e) ∨
      (∃ f v m, src.value? f = some v ∧ f.kind.ofTree v = .error m ∧
        e = .settings (some (Misfit.message (m.under f.name)))) ∨
      ∃ s : Settings, (∀ f, src.Gives f (s.get f)) ∧ s.check = .error e := by
  refine ⟨fun s hs => ⟨gives_of_load h hs, fun origin items hfile => headers_of_load h hs hfile, ?_⟩,
    fun text hcurrent htext => lines_of_current src hcurrent htext, fun e he => refused_of_load h he⟩
  intro src' s' h' hs' f hagree
  exact get_eq_of_agreeOn h hs h' hs' hagree

/-- a settings file, a file of variables with a bad line, and a variable, which speak about some of the same settings -/
def mixed : Sources where
  tree := FileTree.ofFiles ["w"]
    [("s.json", "\x7b\"max_retries\": 7, \"log_level\": \"trace\", \"request_timeout_secs\": 45, " ++
        "\"log_dir\": \"logs\", \"request_headers\": [\x7b\"key\": \"A\", \"value\": \"b\"\x7d]\x7d"),
      (".env", "PEEKABOO_MAX_RETRIES=5\nPEEKABOO_LOG_LEVEL=warn\nPEEKABOO_MAX_COMMENTS=-3\n=\nPEEKABOO_API_KEY=late")]
  env := [("PEEKABOO_LOG_LEVEL", "debug")]
  file? := some "s.json"
  preset := .ollama

/-- the settings that come of them: the preset's, but for those that they speak about -/
def mixedSettings : Settings :=
  { Settings.ofPreset .ollama with
    headers := [⟨"A", "b"⟩]
    maxComments := -3
    logDir := some "logs"
    logLevel := "debug"
    timeoutSecs := 45
    maxRetries := 5 }

theorem load_mixed : mixed.load.toOption = some mixedSettings := by decide +kernel

theorem tidy_mixed : mixed.Tidy where
  upper := by decide +kernel
  once := List.pairwise_singleton _ _
  keys := by decide +kernel
  nodup := by decide +kernel

theorem load_layered_mixed : mixed.Tidy ∧ mixed.load = .ok mixedSettings ∧ ∀ f, mixed.Gives f (mixedSettings.get f) := by
  have hone := load_mixed
  cases hload : mixed.load with
  | error e => rw [hload] at hone; cases hone
  | ok s =>
    rw [hload] at hone
    obtain rfl : s = mixedSettings := Option.some.inj hone
    exact ⟨tidy_mixed, rfl, ((load_layered mixed tidy_mixed).1 mixedSettings hload).1⟩

end Sources

end CommentDigest.Settings
