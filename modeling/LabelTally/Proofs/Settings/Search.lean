import LabelTally.Proofs.Settings.Checks

/-!
# Where settings are looked for

The search passes by directories that hold no settings and ends at the first other one. What is
loaded comes from that directory alone; where there is none, nothing is found.
-/

namespace LabelTally

open FileTree (FileSystem)

/-- The settings file of a directory. -/
def settingsPath (names : List String) : Path := (Path.fromRoot names).below [settingsFileName]

/-- The project file of a directory. -/
def projectPath (names : List String) : Path := (Path.fromRoot names).below [projectFileName]

/-- The search passes a directory by: it has no settings file, and its project file, if there is
one, has no table of settings. -/
def Passes (fs : FileSystem) (names : List String) : Prop :=
  fs.contains (settingsPath names) = false ∧
    (fs.contains (projectPath names) = true → projectTable fs (projectPath names) = .ok none)

/-- The search through directories ends at one of them: it passes by all before it. -/
def EndsAt (fs : FileSystem) (dirs : List (List String)) (names : List String) : Prop :=
  ∃ before after, dirs = before ++ names :: after ∧ (∀ d ∈ before, Passes fs d) ∧ ¬ Passes fs names

theorem EndsAt.mem {fs : FileSystem} {dirs : List (List String)} {names : List String}
    (h : EndsAt fs dirs names) : names ∈ dirs := by
  obtain ⟨before, after, rfl, -, -⟩ := h
  simp

theorem EndsAt.not_passes {fs : FileSystem} {dirs : List (List String)} {names : List String}
    (h : EndsAt fs dirs names) : ¬ Passes fs names := by
  obtain ⟨before, after, -, -, hends⟩ := h
  exact hends

theorem contains_projectPath_of_not_passes {fs : FileSystem} {names : List String}
    (h : ¬ Passes fs names) (hsettings : fs.contains (settingsPath names) = false) :
    fs.contains (projectPath names) = true := by
  by_contra hno
  exact h ⟨hsettings, fun hyes => absurd hyes hno⟩

/-- What is loaded from a directory at which the search ends. -/
def loadFrom (fs : FileSystem) (names : List String) : Except LoadFault Settings := do
  let (path, table) ← settingsIn fs (Path.fromRoot names)
  settingsOf (Path.fromRoot names) path table

/-! ## The search -/

theorem findAmong_cons_of_passes {fs : FileSystem} {names : List String}
    (h : Passes fs names) (rest : List (List String)) :
    findAmong fs (names :: rest) = findAmong fs rest := by
  obtain ⟨hsettings, hproject⟩ := h
  rw [settingsPath] at hsettings
  rw [projectPath] at hproject
  rw [findAmong]
  simp only [hsettings, Bool.false_eq_true, if_false]
  split
  · rename_i hcontains
    rw [hproject hcontains]
    rfl
  · rfl

theorem findAmong_append_of_passes {fs : FileSystem} {before : List (List String)}
    (h : ∀ d ∈ before, Passes fs d) (rest : List (List String)) :
    findAmong fs (before ++ rest) = findAmong fs rest := by
  induction before with
  | nil => rfl
  | cons names before ih =>
    rw [List.cons_append, findAmong_cons_of_passes (h names List.mem_cons_self)]
    exact ih fun d hd => h d (List.mem_cons_of_mem names hd)

/-- The settings of a directory with a settings file are read from there. -/
theorem settingsIn_of_contains {fs : FileSystem} {names : List String}
    (h : fs.contains (settingsPath names) = true) :
    settingsIn fs (Path.fromRoot names) =
      (readDocument fs (.settingsSyntax (settingsPath names)) (settingsPath names)).map
        (settingsPath names, ·) := by
  rw [settingsPath] at h
  rw [settingsIn]
  simp only [h, if_true]
  rfl

/-- The settings of a directory without a settings file are read from the project file. -/
theorem settingsIn_of_not_contains {fs : FileSystem} {names : List String}
    (h : fs.contains (settingsPath names) = false) :
    settingsIn fs (Path.fromRoot names) =
      (projectTable fs (projectPath names)).map
        fun table? => (projectPath names, table?.getD []) := by
  rw [settingsPath] at h
  rw [settingsIn]
  simp only [h, Bool.false_eq_true, if_false]
  rfl

/-- At a directory that it does not pass by, the search finds it or fails with what is wrong with
its project file; reading the settings there meets the same fault. -/
theorem findAmong_cons_of_not_passes {fs : FileSystem} {names : List String}
    (h : ¬ Passes fs names) (rest : List (List String)) :
    findAmong fs (names :: rest) = .ok names ∨
      ∃ e, findAmong fs (names :: rest) = .error e ∧
        settingsIn fs (Path.fromRoot names) = .error e := by
  cases hsettings : fs.contains (settingsPath names) with
  | true =>
    left
    rw [settingsPath] at hsettings
    rw [findAmong]
    simp only [hsettings, if_true]
  | false =>
    have hproject := contains_projectPath_of_not_passes h hsettings
    have hfind : findAmong fs (names :: rest) = projectTable fs (projectPath names) >>=
        fun table? => table?.elim (findAmong fs rest) fun _ => .ok names := by
      rw [settingsPath] at hsettings
      rw [projectPath] at hproject
      rw [findAmong]
      simp only [hsettings, hproject, Bool.false_eq_true, if_false, if_true]
      refine bind_congr fun table? => ?_
      cases table? <;> rfl
    rw [hfind, settingsIn_of_not_contains hsettings]
    cases htable : projectTable fs (projectPath names) with
    | error e => exact .inr ⟨e, rfl, rfl⟩
    | ok table? =>
      cases table? with
      | some table => exact .inl rfl
      | none => exact absurd ⟨hsettings, fun _ => htable⟩ h

/-- Directories are all passed by, or the search ends at one of them. -/
theorem all_pass_or_endsAt (fs : FileSystem) (dirs : List (List String)) :
    (∀ d ∈ dirs, Passes fs d) ∨ ∃ names, EndsAt fs dirs names := by
  induction dirs with
  | nil => exact .inl fun d hd => absurd hd List.not_mem_nil
  | cons names rest ih =>
    by_cases hpass : Passes fs names
    · obtain hall | ⟨found, before, after, rfl, hbefore, hends⟩ := ih
      · exact .inl (List.forall_mem_cons.mpr ⟨hpass, hall⟩)
      · exact .inr ⟨found, names :: before, after, rfl, List.forall_mem_cons.mpr ⟨hpass, hbefore⟩,
          hends⟩
    · exact .inr ⟨names, [], rest, rfl, by simp, hpass⟩

section Loading

variable {fs : FileSystem} {start : Option Path} {first : Path}
  (hfirst : startOfSearch fs start = .ok first)
include hfirst

/-- Where all directories are passed by, nothing is found. -/
theorem loadSettings_of_all_pass (h : ∀ d ∈ upward first.names, Passes fs d) :
    loadSettings fs start = .error .notFound := by
  have hfind : findAmong fs (upward first.names) = .error .notFound := by
    rw [← List.append_nil (upward first.names), findAmong_append_of_passes h]
    rfl
  rw [loadSettings, findRoot, hfirst]
  simp only [bind, Except.bind, hfind]

/-- What is loaded is what the directory holds at which the search ends. -/
theorem loadSettings_of_endsAt {names : List String} (h : EndsAt fs (upward first.names) names) :
    loadSettings fs start = loadFrom fs names := by
  obtain ⟨before, after, hdirs, hbefore, hends⟩ := h
  rw [loadSettings, findRoot, hfirst, loadFrom]
  simp only [bind, Except.bind, pure, Except.pure, hdirs, findAmong_append_of_passes hbefore]
  obtain hok | ⟨e, herror, hin⟩ := findAmong_cons_of_not_passes hends after
  · rw [hok]
  · rw [herror, hin]

end Loading

/-! ## The settings of a table -/

/-- Names are unknown unless each is that of a field that a settings file can hold. -/
theorem unknownNames_eq_nil_iff {table : Toml.Table} :
    unknownNames table = [] ↔ ∀ entry ∈ table, ∃ key ∈ SettingKey.inFile, key.name = entry.1 := by
  rw [unknownNames, ← List.length_eq_zero_iff, List.length_mergeSort, List.length_eq_zero_iff,
    List.filter_eq_nil_iff]
  simp

/-- The values that a table from a file gives, laid over the defaults for a directory. -/
def RawSettings.ofTable (root path : Path) (table : Toml.Table) : RawSettings :=
  ((Settings.default root.text).raw.set .source (.text path.text)).overlaid table

/-- A table of known fields gives what the checks give for its values. -/
theorem settingsOf_of_known {root path : Path} {table : Toml.Table} (h : unknownNames table = []) :
    settingsOf root path table = (RawSettings.ofTable root path table).check.mapError .setting := by
  have hknown : ∀ entry ∈ table, ∃ key : SettingKey, key.name = entry.1 := fun entry hmem =>
    (unknownNames_eq_nil_iff.mp h entry hmem).imp fun _ hkey => hkey.2
  rw [settingsOf, h]
  simp only [RawSettings.assign_eq_overlaid hknown]
  rfl

end LabelTally
