/-
Where the log file is.

The log file is named by the settings, and its directory by the settings or by the command line. The check asks that the
name of the file is not blank and has no separator in it, so the path of the log file is that of its directory with one
more part. That part leads into the directory unless it is one of the two names that every directory has for itself and
for the one above; the check lets these through.

- `Files.join_eq_inside`: a name without separators below a directory
- `FileTree.walk_append`: a way in two parts
- `FileTree.resolve_inside`, `FileTree.walk_entry`: where one more part leads
- `logPath_liesUnder`: the path of the log file
- `logPath_not_entry`: a name that passes the check and leads out of the directory
-/
import CommentDigest.Proofs.Files
import CommentDigest.Proofs.Settings.Check

namespace CommentDigest

/-! ## Names -/

namespace Files

/-- what stands between a directory and a name in it: nothing behind a slash or a directory without a name -/
def separator (dir : String) : String := if dir = "" ∨ dir.toList.getLast? = some '/' then "" else "/"

/-- a directory with a name behind it -/
def inside (dir name : String) : String := dir ++ separator dir ++ name

/-- the path is that of something in the directory -/
def NamesEntry (dir path : String) : Prop := ∃ name, IsEntryName name ∧ path = inside dir name

theorem isAbsolute_of_whole {name : String} (h : '/' ∉ name.toList) : isAbsolute name = false := by
  rw [isAbsolute, beq_eq_false_iff_ne]
  exact fun hhead => h (List.mem_of_head? hhead)

theorem join_eq_inside {name : String} (h : '/' ∉ name.toList) (dir : String) : join dir name = inside dir name := by
  rw [join, isAbsolute_of_whole h, if_neg Bool.false_ne_true, inside, separator]
  split_ifs
  · rw [String.append_empty]
  · rfl

theorem parts_of_whole {name : String} (h : '/' ∉ name.toList) : parts name = [name] := by
  have hsplit : name.toList.splitOn '/' = [name.toList] := by
    have hback : (['/'].intercalate [name.toList]).splitOn '/' = [name.toList] :=
      List.splitOn_intercalate '/' (List.forall_mem_singleton.2 h) (List.cons_ne_nil _ _)
    rwa [List.intercalate_singleton] at hback
  rw [parts, hsplit, List.map_singleton, String.ofList_toList]

/-- a name with more behind it is counted from where the name is -/
theorem isAbsolute_append {dir : String} (hne : dir ≠ "") (name : String) :
    isAbsolute (dir ++ name) = isAbsolute dir := by
  obtain ⟨c, cs, hcs⟩ := List.exists_cons_of_ne_nil fun h => hne (String.toList_eq_nil_iff.1 h)
  rw [isAbsolute, isAbsolute, String.toList_append, hcs]
  rfl

/-- the parts of a directory stand in front of those of a name in it; a slash at its end makes an empty part -/
theorem parts_inside {dir : String} (hne : dir ≠ "") :
    ∃ ps, (parts dir = ps ∨ parts dir = ps ++ [""]) ∧ ∀ name, parts (inside dir name) = ps ++ parts name := by
  by_cases hslash : dir.toList.getLast? = some '/'
  · obtain ⟨cs, hcs⟩ := List.getLast?_eq_some_iff.1 hslash
    have hdir : dir = String.ofList cs ++ "/" := by
      rw [← String.toList_inj, String.toList_append, String.toList_ofList, hcs]
      rfl
    refine ⟨parts (String.ofList cs), .inr ?_, fun name => ?_⟩
    · have hback := parts_of_slash (String.ofList cs) ""
      rwa [String.append_empty, ← hdir] at hback
    · rw [inside, separator, if_pos (.inr hslash), String.append_empty, hdir, parts_of_slash]
  · refine ⟨parts dir, .inl rfl, fun name => ?_⟩
    rw [inside, separator, if_neg (not_or.2 ⟨hne, hslash⟩), parts_of_slash]

/-- a name that is not empty and has no separator names an entry unless it is one of the two that every directory has -/
theorem namesEntry_inside {name : String} (hne : name ≠ "") (hwhole : '/' ∉ name.toList) (dir : String) :
    NamesEntry dir (inside dir name) ↔ name ≠ "." ∧ name ≠ ".." := by
  constructor
  · rintro ⟨name', hentry, hpath⟩
    obtain rfl : name = name' := (String.append_right_inj _).1 hpath
    exact hentry.proper
  · exact fun hproper => ⟨name, ⟨hne, hproper, hwhole⟩, rfl⟩

end Files

/-! ## Trees -/

namespace FileTree

open Files

/-- a way in two parts -/
theorem walk_append (tree : FileTree) (p : Place) (a b : List String) :
    tree.walk p (a ++ b) = (tree.walk p a).bind fun q => tree.walk q b := by
  induction a generalizing p with
  | nil => rfl
  | cons s a ih =>
    rw [List.cons_append, walk, walk]
    cases tree.at? p with
    | none => rfl
    | some node =>
      cases node with
      | file text => rfl
      | directory =>
        dsimp only
        split_ifs
        · exact ih p
        · exact ih p.dropLast
        · rfl
        · exact ih (p ++ [s])

/-- an empty part leads nowhere else -/
theorem eq_of_bind_walk_empty {tree : FileTree} {r : Except FileError Place} {p : Place}
    (h : (r.bind fun q => tree.walk q [""]) = .ok p) : r = .ok p := by
  cases r with
  | error e => cases h
  | ok q =>
    have h : tree.walk q [""] = .ok p := h
    rw [walk] at h
    cases hnode : tree.at? q with
    | none => rw [hnode] at h; cases h
    | some node =>
      rw [hnode] at h
      cases node with
      | file text => cases h
      | directory => exact h

/-- one part behind a directory -/
theorem walk_entry {tree : FileTree} {p : Place} (h : tree.at? p = some .directory) {name : String} (hne : name ≠ "") :
    tree.walk p [name] =
      if name = "." then .ok p
      else if name = ".." then .ok p.dropLast
      else if longestPart < name.utf8ByteSize then .error .longName
      else .ok (p ++ [name]) := by
  rw [walk, h]
  simp only [hne, false_or, walk]

/-- the name leads to a directory; a directory without a name is the current one -/
structure LeadsTo (tree : FileTree) (dir : String) (p : Place) : Prop where
  resolved : (if dir = "" then .ok tree.current else tree.resolve dir) = .ok p
  directory : tree.at? p = some .directory

/-- a name behind a directory leads on from there -/
theorem resolve_inside {tree : FileTree} {dir name : String} {p : Place} (h : tree.LeadsTo dir p) (hne : name ≠ "")
    (hwhole : '/' ∉ name.toList) : tree.resolve (inside dir name) = tree.walk p [name] := by
  obtain ⟨hresolved, hdirectory⟩ := h
  by_cases hdir : dir = ""
  · subst hdir
    obtain rfl : tree.current = p := Except.ok.inj hresolved
    have hinside : inside "" name = name := String.empty_append
    rw [hinside, resolve, if_neg hne, isAbsolute_of_whole hwhole, parts_of_whole hwhole, if_neg Bool.false_ne_true]
  · have hinside : inside dir name ≠ "" := by
      intro hempty
      rw [inside, String.append_assoc, String.append_eq_empty_iff] at hempty
      exact hdir hempty.1
    have habsolute : isAbsolute (inside dir name) = isAbsolute dir := by
      rw [inside, String.append_assoc, isAbsolute_append hdir]
    obtain ⟨ps, hparts, hmore⟩ := parts_inside hdir
    rw [if_neg hdir, resolve, if_neg hdir] at hresolved
    rw [resolve, if_neg hinside, habsolute, hmore, parts_of_whole hwhole, walk_append]
    -- the empty part behind a slash at the end leads to the directory once more
    have hway : tree.walk (if isAbsolute dir then [] else tree.current) ps = .ok p := by
      rcases hparts with hparts | hparts
      · rwa [hparts] at hresolved
      · rw [hparts, walk_append] at hresolved
        exact eq_of_bind_walk_empty hresolved
    rw [hway]
    rfl

end FileTree

/-! ## The log file -/

open Files FileTree

/-- the path is that of a directory with a name behind it. It is the path of an entry unless the name is one of the two
that every directory has; these lead to the directory itself and to the one above. -/
structure LiesUnder (dir name path : String) : Prop where
  text : path = inside dir name
  entry : NamesEntry dir path ↔ name ≠ "." ∧ name ≠ ".."
  leads : ∀ (tree : FileTree) (p : Place), tree.LeadsTo dir p →
    tree.resolve path =
      if name = "." then .ok p
      else if name = ".." then .ok p.dropLast
      else if longestPart < name.utf8ByteSize then .error .longName
      else .ok (p ++ [name])

theorem liesUnder_join {name : String} (hne : name ≠ "") (hwhole : '/' ∉ name.toList) (dir : String) :
    LiesUnder dir name (join dir name) where
  text := join_eq_inside hwhole dir
  entry := by rw [join_eq_inside hwhole, namesEntry_inside hne hwhole]
  leads tree p h := by rw [join_eq_inside hwhole, resolve_inside h hne hwhole, walk_entry h.directory hne]

/-- the name has more than white space, and no separator of any system -/
structure IsPlainName (name : String) : Prop where
  visible : ∃ c ∈ name.toList, isWhite c = false
  slash : '/' ∉ name.toList
  backslash : '\\' ∉ name.toList

theorem IsPlainName.nonempty {name : String} (h : IsPlainName name) : name ≠ "" := by
  rintro rfl
  obtain ⟨c, hc, -⟩ := h.visible
  rw [String.toList_empty] at hc
  cases hc

theorem isPlainName_of_check {s : Settings} (h : s.check = .ok ()) : IsPlainName s.logFile := by
  have hplain := ((Settings.flaw?_eq_none_iff s).1 ((Settings.check_eq_ok_iff s).1 h)).1.logFile
  simp only [Settings.isPlainFileName, isBlankText, Bool.and_eq_true, Bool.not_eq_true', List.all_eq_false,
    List.any_eq_false, Bool.or_eq_true, beq_iff_eq, not_or, Bool.not_eq_true] at hplain
  exact ⟨hplain.1, fun hc => (hplain.2 _ hc).1 rfl, fun hc => (hplain.2 _ hc).2 rfl⟩

/-- **The log file is one name behind its directory.** For settings that pass the check the name of the log file is a
plain one. Behind the directory of the settings, or the one that the command line gives in its place, it is the path of
an entry of that directory unless it is one of the two names that every directory has: these lead to the directory
itself and to the one above. -/
theorem logPath_liesUnder {s : Settings} (h : s.check = .ok ()) :
    IsPlainName s.logFile ∧
    (∀ dir, s.logDir = some dir → ∃ path, s.logPath = some path ∧ LiesUnder dir s.logFile path) ∧
    ∀ i : Cli.Invocation,
      (∀ dir, i.logDir? = some dir → ∃ path, i.logFile? (some s) = some path ∧ LiesUnder dir s.logFile path) ∧
      (i.logDir? = none → i.logFile? (some s) = s.logPath) := by
  have hplain := isPlainName_of_check h
  have hlies := liesUnder_join hplain.nonempty hplain.slash
  refine ⟨hplain, fun dir hdir => ⟨_, ?_, hlies dir⟩, fun i => ⟨fun dir hdir => ⟨_, ?_, hlies dir⟩, fun hdir => ?_⟩⟩
  · rw [Settings.logPath, hdir, Option.map_some]
  · rw [Cli.Invocation.logFile?, hdir]
    rfl
  · rw [Cli.Invocation.logFile?, hdir]
    rfl

/-- a name with two points in it, behind a directory with a slash at its end that the command line gives -/
theorem logPath_liesUnder_slash :
    let s := { Settings.ofPreset .ollama with logDir := some "logs", logFile := "..a.log" }
    let i : Cli.Invocation := ⟨none, .ollama, none, some "/var/", .settings⟩
    let tree : FileTree := ⟨[(["var"], .directory)], ["home"]⟩
    s.check = .ok () ∧ i.logFile? (some s) = some "/var/..a.log" ∧ s.logPath = some "logs/..a.log" ∧
      NamesEntry "logs" "logs/..a.log" ∧ NamesEntry "/var/" "/var/..a.log" ∧
      tree.resolve "/var/..a.log" = .ok ["var", "..a.log"] := by
  intro s i tree
  have hcheck : s.check = .ok () := by decide +kernel
  obtain ⟨-, hsettings, hcommand⟩ := logPath_liesUnder hcheck
  obtain ⟨path, hpath, hlies⟩ := hsettings "logs" rfl
  obtain ⟨path', hpath', hlies'⟩ := (hcommand i).1 "/var/" rfl
  have hproper : s.logFile ≠ "." ∧ s.logFile ≠ ".." := by decide
  obtain rfl : path = "logs/..a.log" := hlies.text.trans (by decide)
  obtain rfl : path' = "/var/..a.log" := hlies'.text.trans (by decide)
  have hvar : tree.LeadsTo "/var/" ["var"] := ⟨by decide, by decide⟩
  refine ⟨hcheck, hpath', hpath, hlies.entry.2 hproper, hlies'.entry.2 hproper, ?_⟩
  rw [hlies'.leads tree _ hvar, if_neg hproper.1, if_neg hproper.2, if_neg (by decide)]
  rfl

/-- two points pass the check, and lead out of the directory -/
theorem logPath_not_entry :
    ¬ ∀ (s : Settings) (dir : String), s.check = .ok () → s.logDir = some dir →
      ∃ path, s.logPath = some path ∧ NamesEntry dir path := by
  intro h
  obtain ⟨path, hpath, hentry⟩ :=
    h { Settings.ofPreset .ollama with logDir := some "logs", logFile := ".." } "logs" (by decide +kernel) rfl
  have hinside : path = inside "logs" ".." := (Option.some.inj hpath).symm.trans (by decide)
  rw [hinside, namesEntry_inside (by decide) (by decide)] at hentry
  exact hentry.2 rfl

end CommentDigest
