import LabelTally.Proofs.Settings.Distinct
import LabelTally.Proofs.Settings.InPlace
import LabelTally.Proofs.Settings.Outcomes

/-!
# The nearest settings

Of a directory and those above it, the nearest that holds settings decides: its settings file, or,
where it has none, the table of settings in its project file. Every field has the value that is
written there, or its default. No other file is of account, be it beside that file, nearer to the
start or farther away.
-/

namespace LabelTally

open FileTree (FileSystem)
open Label (Style)

/-- The directory so many levels above another one. The root is above itself. -/
def levelAbove (names : List String) (n : Nat) : List String := List.dropLast^[n] names

/-- A document has a table of settings among its tools. -/
def HasTable (document table : Toml.Table) : Prop :=
  ∃ tools, document.lookup "tool" = some (.table tools) ∧
    tools.lookup "codesync" = some (.table table)

/-- The project file of a directory, if there is one, is a document whose tools, if it has any, are
a table. -/
def HasProperProject (fs : FileSystem) (names : List String) : Prop :=
  fs.contains (projectPath names) = true →
    ∃ document, readDocument fs .projectSyntax (projectPath names) = .ok document ∧
      ∀ v, document.lookup "tool" = some v → ∃ tools, v = .table tools

/-- The directory has a settings file, or a project file with a table of settings. -/
def HoldsSettings (fs : FileSystem) (names : List String) : Prop :=
  fs.contains (settingsPath names) = true ∨ fs.contains (projectPath names) = true ∧
    ∃ document table, readDocument fs .projectSyntax (projectPath names) = .ok document ∧
      HasTable document table

/-- The file of a directory that its settings come from. -/
def sourcePath (fs : FileSystem) (names : List String) : Path :=
  if fs.contains (settingsPath names) then settingsPath names else projectPath names

/-- The table is what the file holds that the settings of a directory come from. -/
def IsSourceTable (fs : FileSystem) (names : List String) (table : Toml.Table) : Prop :=
  if fs.contains (settingsPath names) then
    readDocument fs (.settingsSyntax (settingsPath names)) (settingsPath names) = .ok table
  else ∃ document, readDocument fs .projectSyntax (projectPath names) = .ok document ∧
    HasTable document table

/-- Settings are looked for from a directory upward, and the project files there are proper. -/
structure SearchesFrom (fs : FileSystem) (start : Option Path) (first : Path) : Prop where
  resolved : startOfSearch fs start = .ok first
  proper : ∀ n ≤ first.names.length, HasProperProject fs (levelAbove first.names n)

/-- The directory so many levels above another one is the nearest that holds settings. -/
structure IsNearest (fs : FileSystem) (names : List String) (n : Nat) : Prop where
  le : n ≤ names.length
  holds : HoldsSettings fs (levelAbove names n)
  least : ∀ m < n, ¬ HoldsSettings fs (levelAbove names m)

/-- A value as settings keep it: a style has its own name, whatever it is called by. -/
def SettingKey.kept (key : SettingKey) (v : Value) : Value :=
  match key, v with
  | .caseStyle, .text name => ((Style.ofName? name).map fun style => .text style.name).getD v
  | _, _ => v

/-- The settings of a directory are those that a table in a file gives, and the defaults for all
else. -/
structure Settings.ComesFrom (s : Settings) (names : List String) (path : Path)
    (table : Toml.Table) : Prop where
  root : s.root = .text (Path.fromRoot names).text
  source : s.source = .text path.text
  fields : ∀ key ∈ SettingKey.inFile, s.raw key =
    key.kept ((table.lookup key.name).getD ((Settings.default (Path.fromRoot names).text).raw key))

/-! ## Levels -/

theorem levelAbove_eq_take (names : List String) (n : Nat) :
    levelAbove names n = names.take (names.length - n) := by
  induction n with
  | zero => simp [levelAbove]
  | succ n ih =>
    rw [levelAbove, Function.iterate_succ_apply', ← levelAbove, ih, List.dropLast_eq_take,
      List.take_take, List.length_take]
    congr 1
    omega

/-- The directories that are searched are the levels from the first one to the root. -/
theorem upward_eq_map_levelAbove (names : List String) :
    upward names = (List.range (names.length + 1)).map (levelAbove names) := by
  rw [upward]
  refine List.ext_getElem (by simp) fun n hn hn' => ?_
  simp [levelAbove_eq_take]

theorem forall_mem_upward {names : List String} {P : List String → Prop} :
    (∀ d ∈ upward names, P d) ↔ ∀ n ≤ names.length, P (levelAbove names n) := by
  simp [upward_eq_map_levelAbove]

/-! ## The table of a project file -/

theorem projectTable_eq_some_iff {fs : FileSystem} {path : Path} {table : Toml.Table} :
    projectTable fs path = .ok (some table) ↔
      ∃ document, readDocument fs .projectSyntax path = .ok document ∧ HasTable document table := by
  rw [projectTable, bind_eq_ok_iff]
  refine exists_congr fun document => and_congr_right fun _ => ⟨fun h => ?_, ?_⟩
  · split at h
    · cases h
    · rename_i tools htool
      split at h
      · rename_i found hfound
        cases h
        exact ⟨tools, htool, hfound⟩
      · cases h
    · cases h
  · rintro ⟨tools, htool, hfound⟩
    simp only [htool, hfound]
    rfl

/-- A proper project file gives a table or none. -/
theorem HasProperProject.exists_projectTable {fs : FileSystem} {names : List String}
    (h : HasProperProject fs names) (hcontains : fs.contains (projectPath names) = true) :
    ∃ table?, projectTable fs (projectPath names) = .ok table? := by
  obtain ⟨document, hread, htool⟩ := h hcontains
  cases htable : projectTable fs (projectPath names) with
  | ok table? => exact ⟨table?, rfl⟩
  | error e =>
    rw [projectTable, hread] at htable
    simp only [bind, Except.bind] at htable
    split at htable
    · cases htable
    · split at htable <;> cases htable
    · rename_i v hne hv
      obtain ⟨tools, rfl⟩ := htool v hv
      exact absurd rfl (hne tools)

/-- Where project files are proper, the search passes by what holds no settings. -/
theorem HasProperProject.passes_iff {fs : FileSystem} {names : List String}
    (h : HasProperProject fs names) : Passes fs names ↔ ¬ HoldsSettings fs names := by
  rw [Passes, HoldsSettings, not_or, Bool.not_eq_true, not_and]
  refine and_congr_right fun _ => forall_congr' fun hcontains => ?_
  obtain ⟨table?, htable⟩ := h.exists_projectTable hcontains
  have hsome : (∃ document table,
      readDocument fs .projectSyntax (projectPath names) = .ok document ∧
        HasTable document table) ↔ ∃ table, table? = some table := by
    rw [exists_comm]
    refine exists_congr fun table => ?_
    rw [← projectTable_eq_some_iff, htable, Except.ok.injEq]
  rw [hsome, htable]
  cases table? <;> simp

/-! ## Loading from a directory that holds settings -/

section Source

variable {fs : FileSystem} {names : List String}

/-- In a directory that holds settings, what is read is the table of their source. -/
theorem settingsIn_eq_ok_iff (h : HoldsSettings fs names) {path : Path} {table : Toml.Table} :
    settingsIn fs (Path.fromRoot names) = .ok (path, table) ↔
      path = sourcePath fs names ∧ IsSourceTable fs names table := by
  cases hsettings : fs.contains (settingsPath names) with
  | true =>
    simp only [settingsIn_of_contains hsettings, sourcePath, IsSourceTable, hsettings, if_true]
    cases readDocument fs (.settingsSyntax (settingsPath names)) (settingsPath names) with
    | error e => simp [Except.map]
    | ok found => simp [Except.map, eq_comm]
  | false =>
    simp only [settingsIn_of_not_contains hsettings, sourcePath, IsSourceTable, hsettings,
      Bool.false_eq_true, if_false, ← projectTable_eq_some_iff]
    obtain hyes | ⟨-, document, found, hread, hfound⟩ := h
    · rw [hyes] at hsettings
      cases hsettings
    · rw [projectTable_eq_some_iff.mpr ⟨document, hread, hfound⟩]
      simp [Except.map, eq_comm]

theorem settingsOf_eq_ok_iff {root path : Path} {table : Toml.Table} {s : Settings} :
    settingsOf root path table = .ok s ↔
      unknownNames table = [] ∧ (RawSettings.ofTable root path table).Gives s := by
  cases hunknown : unknownNames table with
  | cons name more =>
    rw [settingsOf, hunknown]
    simp
  | nil =>
    rw [settingsOf_of_known hunknown, ← RawSettings.check_eq_ok_iff]
    cases (RawSettings.ofTable root path table).check <;> simp [Except.mapError]

/-- Settings are loaded exactly if the source has known names only and its values pass the
checks. -/
theorem loadFrom_eq_ok_iff (h : HoldsSettings fs names) {s : Settings} :
    loadFrom fs names = .ok s ↔ ∃ table, IsSourceTable fs names table ∧ unknownNames table = [] ∧
      (RawSettings.ofTable (Path.fromRoot names) (sourcePath fs names) table).Gives s := by
  rw [loadFrom, bind_eq_ok_iff]
  constructor
  · rintro ⟨⟨path, table⟩, hin, hof⟩
    obtain ⟨rfl, htable⟩ := (settingsIn_eq_ok_iff h).mp hin
    exact ⟨table, htable, settingsOf_eq_ok_iff.mp hof⟩
  · rintro ⟨table, htable, hof⟩
    exact ⟨_, (settingsIn_eq_ok_iff h).mpr ⟨rfl, htable⟩, settingsOf_eq_ok_iff.mpr hof⟩

theorem isDistinct_readDocument {broken : LoadFault} {path : Path} {t : Toml.Table}
    (h : readDocument fs broken path = .ok t) : (Value.table t).IsDistinct := by
  rw [readDocument] at h
  split at h
  · cases h
  · split at h
    · cases h
    · split at h <;> cases h
      exact Toml.isDistinct_read (by assumption)

/-- The table of a source has no name twice. -/
theorem IsSourceTable.isDistinct {table : Toml.Table} (h : IsSourceTable fs names table) :
    (Value.table table).IsDistinct := by
  rw [IsSourceTable] at h
  split at h
  · exact isDistinct_readDocument h
  · obtain ⟨document, hread, tools, htool, hfound⟩ := h
    exact ((isDistinct_readDocument hread).lookup htool).lookup hfound

end Source

/-! ## What is loaded -/

/-- Checked settings are the values they were given as, as they are kept. -/
theorem RawSettings.Gives.raw_eq_kept {r : RawSettings} {s : Settings} (h : r.Gives s)
    (key : SettingKey) : s.raw key = key.kept (r key) := by
  rw [h.raw_eq_named]
  by_cases hkey : key = .caseStyle
  · subst hkey
    obtain ⟨hnull, hs⟩ | ⟨name, style, htext, hof, hs⟩ := h.style
    · rw [hs, hnull]
      exact hnull
    · rw [hs, htext, SettingKey.kept, hof]
      rfl
  · rw [r.named_of_ne s.style hkey, SettingKey.kept]
    exact fun name hstyle => absurd hstyle hkey

/-- In a table of known names only, fields that a settings file cannot hold have no value. -/
theorem lookup_eq_none_of_known {table : Toml.Table} (h : unknownNames table = [])
    {key : SettingKey} (hkey : key ∉ SettingKey.inFile) : table.lookup key.name = none := by
  refine List.lookup_eq_none_iff.mpr fun entry hmem => bne_iff_ne.mpr fun heq => hkey ?_
  obtain ⟨k, hk, hname⟩ := unknownNames_eq_nil_iff.mp h entry hmem
  rwa [SettingKey.name_injective (heq.trans hname.symm)]

theorem Settings.comesFrom_of_gives {names : List String} {path : Path} {table : Toml.Table}
    {s : Settings} (hdistinct : (Value.table table).IsDistinct) (hknown : unknownNames table = [])
    (h : (RawSettings.ofTable (Path.fromRoot names) path table).Gives s) :
    s.ComesFrom names path table := by
  have hvalue : ∀ key, RawSettings.ofTable (Path.fromRoot names) path table key =
      (table.lookup key.name).getD
        ((Settings.default (Path.fromRoot names).text).raw.set .source (.text path.text) key) := by
    intro key
    rw [RawSettings.ofTable, RawSettings.overlaid, hdistinct.lookup_reverse]
  refine ⟨?_, ?_, fun key hkey => ?_⟩
  · rw [h.root, hvalue, lookup_eq_none_of_known hknown (by decide)]
    rfl
  · rw [h.source, hvalue, lookup_eq_none_of_known hknown (by decide)]
    rfl
  · have hne : key ≠ .source := by
      rintro rfl
      exact absurd hkey (by decide)
    rw [h.raw_eq_kept, hvalue, RawSettings.set, if_neg hne]

/-- What is loaded depends on one file only, and on whether that is the settings file. -/
theorem loadFrom_congr {fs fs' : FileSystem} {names : List String}
    (hsame : fs'.contains (settingsPath names) = fs.contains (settingsPath names))
    (hread : fs'.read (sourcePath fs names) = fs.read (sourcePath fs names)) :
    loadFrom fs' names = loadFrom fs names := by
  have hdocument : ∀ broken, readDocument fs' broken (sourcePath fs names) =
      readDocument fs broken (sourcePath fs names) := fun broken => by
    rw [readDocument, readDocument, hread]
  rw [loadFrom, loadFrom]
  cases hsettings : fs.contains (settingsPath names) with
  | true =>
    simp only [sourcePath, hsettings, if_true] at hdocument
    rw [hsettings] at hsame
    rw [settingsIn_of_contains hsettings, settingsIn_of_contains hsame, hdocument]
  | false =>
    simp only [sourcePath, hsettings, Bool.false_eq_true, if_false] at hdocument
    rw [hsettings] at hsame
    rw [settingsIn_of_not_contains hsettings, settingsIn_of_not_contains hsame, projectTable,
      projectTable, hdocument]

section Search

variable {fs : FileSystem} {start : Option Path} {first : Path} (h : SearchesFrom fs start first)
include h

/-- The search ends at the nearest directory that holds settings. -/
theorem SearchesFrom.loadSettings_eq {n : Nat} (hn : IsNearest fs first.names n) :
    loadSettings fs start = loadFrom fs (levelAbove first.names n) := by
  let levels := List.range (first.names.length + 1)
  have hlt : n < levels.length := by
    rw [List.length_range]
    exact Nat.lt_succ_of_le hn.le
  have hsplit : levels = List.range n ++ n :: levels.drop (n + 1) := by
    calc levels = levels.take n ++ levels.drop n := (List.take_append_drop n levels).symm
      _ = List.range n ++ n :: levels.drop (n + 1) := by
        rw [List.take_range, Nat.min_eq_left (Nat.le_succ_of_le hn.le),
          List.drop_eq_getElem_cons hlt, List.getElem_range]
  refine loadSettings_of_endsAt h.resolved ⟨(List.range n).map (levelAbove first.names),
    (levels.drop (n + 1)).map (levelAbove first.names), ?_, ?_, ?_⟩
  · rw [upward_eq_map_levelAbove, ← List.map_cons, ← List.map_append]
    exact congrArg (List.map _) hsplit
  · intro d hd
    obtain ⟨m, hm, rfl⟩ := List.mem_map.mp hd
    have hmn : m < n := List.mem_range.mp hm
    exact (h.proper m (hmn.le.trans hn.le)).passes_iff.mpr (hn.least m hmn)
  · exact fun hpass => (h.proper n hn.le).passes_iff.mp hpass hn.holds

/-- Where no directory holds settings, none are found. -/
theorem SearchesFrom.loadSettings_eq_notFound
    (hnone : ∀ n ≤ first.names.length, ¬ HoldsSettings fs (levelAbove first.names n)) :
    loadSettings fs start = .error .notFound :=
  loadSettings_of_all_pass h.resolved (forall_mem_upward.mpr fun n hn =>
    (h.proper n hn).passes_iff.mpr (hnone n hn))

/-- From a start that can be resolved, among directories with proper project files: where none holds
settings, none are found, and the defaults for the start are in force. Otherwise the nearest that
does decides. Settings are loaded exactly if the table in its source has known names only and values
that pass the checks, and then each field is what is written there or its default. All other files
may be different, and so may the start: the outcome is the same. -/
theorem loadSettings_nearest :
    ((∀ n ≤ first.names.length, ¬ HoldsSettings fs (levelAbove first.names n)) →
      loadSettings fs start = .error .notFound ∧
        settingsFor fs start = .ok (Settings.default first.text)) ∧
    ∀ n, IsNearest fs first.names n →
      (∀ s, loadSettings fs start = .ok s ↔
        ∃ table, IsSourceTable fs (levelAbove first.names n) table ∧ unknownNames table = [] ∧
          (RawSettings.ofTable (Path.fromRoot (levelAbove first.names n))
            (sourcePath fs (levelAbove first.names n)) table).Gives s) ∧
      (∀ s, loadSettings fs start = .ok s →
        ∃ table, IsSourceTable fs (levelAbove first.names n) table ∧
          s.ComesFrom (levelAbove first.names n) (sourcePath fs (levelAbove first.names n)) table) ∧
      ∀ (fs' : FileSystem) (start' : Option Path) (first' : Path) (n' : Nat),
        SearchesFrom fs' start' first' → IsNearest fs' first'.names n' →
        levelAbove first'.names n' = levelAbove first.names n →
        fs'.contains (settingsPath (levelAbove first.names n)) =
          fs.contains (settingsPath (levelAbove first.names n)) →
        fs'.read (sourcePath fs (levelAbove first.names n)) =
          fs.read (sourcePath fs (levelAbove first.names n)) →
        loadSettings fs' start' = loadSettings fs start := by
  refine ⟨fun hnone => ?_, fun n hn => ?_⟩
  · have hload := h.loadSettings_eq_notFound hnone
    refine ⟨hload, ?_⟩
    rw [settingsFor, hload, h.resolved]
    rfl
  · rw [h.loadSettings_eq hn]
    refine ⟨fun s => loadFrom_eq_ok_iff hn.holds, fun s hs => ?_, ?_⟩
    · obtain ⟨table, htable, hknown, hgives⟩ := (loadFrom_eq_ok_iff hn.holds).mp hs
      exact ⟨table, htable, Settings.comesFrom_of_gives htable.isDistinct hknown hgives⟩
    · intro fs' start' first' n' h' hn' hlevel hsame hread
      rw [h'.loadSettings_eq hn', hlevel]
      exact loadFrom_congr hsame hread

end Search

/-- The text `case_style = "KEBAB"` and a line feed. -/
def styleBytes : List UInt8 :=
  [99, 97, 115, 101, 95, 115, 116, 121, 108, 101, 32, 61, 32, 34, 75, 69, 66, 65, 66, 34, 10]

/-- The text `[tool.codesync]` and a line feed. -/
def tableBytes : List UInt8 :=
  [91, 116, 111, 111, 108, 46, 99, 111, 100, 101, 115, 121, 110, 99, 93, 10]

/-- A working directory with an empty project file, below a directory with both files, below a
settings file that is no text. -/
def layeredTree : FileSystem :=
  ⟨.directory [
    ("a", .directory [
      ("b", .directory [("pyproject.toml", .file [])]),
      ("codesync.toml", .file styleBytes),
      ("pyproject.toml", .file tableBytes)]),
    ("codesync.toml", .file [0xff])], ["a", "b"]⟩

theorem locate_layeredTree :
    layeredTree.locate (settingsPath ["a", "b"]) = .ok ⟨["a", "b", "codesync.toml"], none⟩ ∧
    layeredTree.locate (projectPath ["a", "b"]) =
      .ok ⟨["a", "b", "pyproject.toml"], some (.file [])⟩ ∧
    layeredTree.locate (settingsPath ["a"]) =
      .ok ⟨["a", "codesync.toml"], some (.file styleBytes)⟩ ∧
    layeredTree.locate (projectPath ["a"]) =
      .ok ⟨["a", "pyproject.toml"], some (.file tableBytes)⟩ ∧
    layeredTree.locate (projectPath []) = .ok ⟨["pyproject.toml"], none⟩ := by
  refine ⟨?_, ?_, ?_, ?_, ?_⟩ <;> rw [locate_of_not_hasZero _ (by decide)] <;> cbv

/-- What the files of the two lower directories hold. -/
theorem readDocument_layeredTree :
    readDocument layeredTree .projectSyntax (projectPath ["a", "b"]) = .ok [] ∧
    readDocument layeredTree .projectSyntax (projectPath ["a"]) =
      .ok [("tool", .table [("codesync", .table [])])] ∧
    readDocument layeredTree (.settingsSyntax (settingsPath ["a"])) (settingsPath ["a"]) =
      .ok [("case_style", .text "KEBAB")] := by
  obtain ⟨-, hb, hstyle, htable, -⟩ := locate_layeredTree
  have hempty : Toml.read [] = .ok [] := by cbv
  have hdecodeTable : Text.Utf8.decodeStrict tableBytes = .ok "[tool.codesync]\n".toList := by cbv
  have hreadTable : Toml.read "[tool.codesync]\n".toList =
      .ok [("tool", .table [("codesync", .table [])])] := by cbv
  have hdecodeStyle : Text.Utf8.decodeStrict styleBytes =
      .ok "case_style = \"KEBAB\"\n".toList := by cbv
  have hreadStyle : Toml.read "case_style = \"KEBAB\"\n".toList =
      .ok [("case_style", .text "KEBAB")] := by cbv
  refine ⟨?_, ?_, ?_⟩
  · have hdecode : Text.Utf8.decodeStrict [] = .ok [] := by cbv
    simp only [readDocument, FileSystem.read, FileSystem.node, hb, hdecode, hempty]
  · simp only [readDocument, FileSystem.read, FileSystem.node, htable, hdecodeTable, hreadTable]
  · simp only [readDocument, FileSystem.read, FileSystem.node, hstyle, hdecodeStyle, hreadStyle]

theorem searchesFrom_layeredTree : SearchesFrom layeredTree none (Path.fromRoot ["a", "b"]) := by
  obtain ⟨-, -, -, -, hroot⟩ := locate_layeredTree
  obtain ⟨hlower, hupper, -⟩ := readDocument_layeredTree
  refine ⟨by cbv, fun n hn => ?_⟩
  have hcases : n = 0 ∨ n = 1 ∨ n = 2 := by
    have hle : n ≤ 2 := hn
    omega
  obtain rfl | rfl | rfl := hcases
  · exact fun _ => ⟨_, hlower, by simp⟩
  · exact fun _ => ⟨_, hupper, by simp⟩
  · intro hcontains
    have habsent : layeredTree.contains (projectPath []) = false := by
      simp only [FileSystem.contains, FileSystem.node, hroot]
    exact absurd hcontains (by simp [levelAbove, Path.fromRoot, habsent])

theorem contains_layeredTree : layeredTree.contains (settingsPath ["a"]) = true := by
  obtain ⟨-, -, hstyle, -, -⟩ := locate_layeredTree
  simp only [FileSystem.contains, FileSystem.node, hstyle]

theorem isNearest_layeredTree : IsNearest layeredTree ["a", "b"] 1 := by
  obtain ⟨hlower, -, -, -, -⟩ := locate_layeredTree
  obtain ⟨hread, -, -⟩ := readDocument_layeredTree
  refine ⟨by decide, .inl contains_layeredTree, fun m hm => ?_⟩
  obtain rfl : m = 0 := by omega
  rintro (hcontains | ⟨-, document, table, hdocument, tools, htool, -⟩)
  · have habsent : layeredTree.contains (settingsPath ["a", "b"]) = false := by
      simp only [FileSystem.contains, FileSystem.node, hlower]
    exact absurd hcontains (by simp [levelAbove, habsent])
  · obtain rfl : [] = document := Except.ok.inj (hread.symm.trans hdocument)
    cases htool

/-- The empty project file is passed by, the settings file comes before the project file beside it,
and the file above is not looked at. -/
theorem loadSettings_nearest_layered :
    SearchesFrom layeredTree none (Path.fromRoot ["a", "b"]) ∧
    IsNearest layeredTree ["a", "b"] 1 ∧
    ∃ s, loadSettings layeredTree none = .ok s ∧ s.root = .text "/a" ∧
      s.source = .text "/a/codesync.toml" ∧ s.raw .caseStyle = .text "kebab" ∧
      s.raw .defaultCount = .int 2 := by
  obtain ⟨-, hnear⟩ := loadSettings_nearest searchesFrom_layeredTree
  obtain ⟨hiff, -, -⟩ := hnear 1 isNearest_layeredTree
  have htable : IsSourceTable layeredTree ["a"] [("case_style", .text "KEBAB")] := by
    rw [IsSourceTable, if_pos contains_layeredTree]
    exact readDocument_layeredTree.2.2
  have hgives : (RawSettings.ofTable (Path.fromRoot ["a"]) (settingsPath ["a"])
      [("case_style", .text "KEBAB")]).Gives
      { root := .text "/a", source := .text "/a/codesync.toml", style := some .kebab } := by
    refine RawSettings.check_eq_ok_iff.mp ?_
    cbv
  have hpath : sourcePath layeredTree ["a"] = settingsPath ["a"] := if_pos contains_layeredTree
  exact ⟨searchesFrom_layeredTree, isNearest_layeredTree, _,
    (hiff _).mpr ⟨_, htable, by cbv, hpath ▸ hgives⟩, rfl, rfl, rfl, rfl⟩

end LabelTally
