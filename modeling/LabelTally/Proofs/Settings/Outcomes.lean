import LabelTally.Command.Run
import LabelTally.Proofs.Settings.Search

/-!
# How loading settings can end

Loading gives settings that pass their checks, or ends with a fault that is documented: nothing is
found, fields are unknown, or a file or a value in it is bad. Two things end it otherwise, and a run
with them: tools of a project file that are no table, and a pattern that overtaxes.
-/

namespace LabelTally

open FileTree (FileSystem)
open Command (CheckRequest Host runCheck isReported)

/-- The faults that loading is documented to end with. -/
def LoadFault.IsDocumented : LoadFault → Prop
  | .notFound | .unknownKeys .. => True
  | .encoding _ | .projectSyntax | .settingsSyntax _ | .tooManyDigits _ => True
  | .setting fault => fault.IsBadValue
  | .start fault => fault = .zeroByte
  | .file _ | .toolNotTable _ => False

/-- Loading ends as it is documented: with settings that pass their checks, which change nothing of
them, or with a documented fault. -/
def EndsAsDocumented (result : Except LoadFault Settings) : Prop :=
  (∃ s, result = .ok s ∧ s.raw.check = .ok s) ∨ ∃ e, result = .error e ∧ e.IsDocumented

/-- What a directory has for a settings file and for a project file can be read. -/
def HasReadableFiles (fs : FileSystem) (names : List String) : Prop :=
  ∀ path ∈ [settingsPath names, projectPath names], fs.contains path = true → fs.isFile path = true

/-- The project file decides in a directory, and its tools are no table but a value. -/
def HasToolValue (fs : FileSystem) (names : List String) (v : Value) : Prop :=
  fs.contains (settingsPath names) = false ∧
    ∃ document, readDocument fs .projectSyntax (projectPath names) = .ok document ∧
      document.lookup "tool" = some v ∧ ∀ tools, v ≠ .table tools

/-- The settings in a directory have known fields only, and a pattern that overtaxes. -/
def HasOvertaxingPattern (fs : FileSystem) (names : List String) (fault : Pattern.Fault) : Prop :=
  ∃ path table, settingsIn fs (Path.fromRoot names) = .ok (path, table) ∧
    unknownNames table = [] ∧ (RawSettings.ofTable (Path.fromRoot names) path table).Overtaxes fault

/-! ## Reading documents -/

theorem exists_read_of_isFile {fs : FileSystem} {path : Path} (h : fs.isFile path = true) :
    ∃ bytes, fs.read path = .ok bytes := by
  rw [FileSystem.isFile] at h
  split at h
  · rename_i content hnode
    exact ⟨content, by rw [FileSystem.read, hnode]⟩
  · cases h

/-- A file is read as a document, or ends with a documented fault if the one for a file that breaks
the rules of the format is documented. -/
theorem isDocumented_of_readDocument {fs : FileSystem} {broken : LoadFault} {path : Path}
    {e : LoadFault} (hfile : fs.isFile path = true) (h : readDocument fs broken path = .error e)
    (hbroken : broken.IsDocumented) : e.IsDocumented := by
  obtain ⟨bytes, hread⟩ := exists_read_of_isFile hfile
  simp only [readDocument, hread] at h
  split at h
  · cases h
    trivial
  · split at h <;> cases h
    · exact hbroken
    · trivial

/-- A project file gives a table or none, unless what it holds is bad or its tools are no table. -/
theorem projectTable_eq_error_cases {fs : FileSystem} {path : Path} {e : LoadFault}
    (hfile : fs.isFile path = true) (h : projectTable fs path = .error e) :
    e.IsDocumented ∨ ∃ v document, e = .toolNotTable v ∧
      readDocument fs .projectSyntax path = .ok document ∧ document.lookup "tool" = some v ∧
        ∀ tools, v ≠ .table tools := by
  rw [projectTable, bind_eq_error_iff] at h
  obtain hread | ⟨document, hread, h⟩ := h
  · exact .inl (isDocumented_of_readDocument hfile hread trivial)
  · split at h
    · cases h
    · split at h <;> cases h
    · rename_i v hne hlookup
      cases h
      exact .inr ⟨v, document, rfl, hread, hlookup, hne⟩

theorem projectTable_of_toolValue {fs : FileSystem} {path : Path} {document : Toml.Table}
    {v : Value} (hread : readDocument fs .projectSyntax path = .ok document)
    (hlookup : document.lookup "tool" = some v) (hv : ∀ tools, v ≠ .table tools) :
    projectTable fs path = .error (.toolNotTable v) := by
  rw [projectTable, hread]
  simp only [bind, Except.bind, hlookup]

/-- Settings are read where the search ends, unless what is there is bad or the tools are no
table. -/
theorem settingsIn_eq_error_cases {fs : FileSystem} {names : List String} {e : LoadFault}
    (hfiles : HasReadableFiles fs names) (hends : ¬ Passes fs names)
    (h : settingsIn fs (Path.fromRoot names) = .error e) :
    e.IsDocumented ∨ ∃ v, HasToolValue fs names v := by
  cases hsettings : fs.contains (settingsPath names) with
  | true =>
    have hfile : fs.isFile (settingsPath names) = true := hfiles _ (by simp) hsettings
    rw [settingsIn_of_contains hsettings] at h
    cases hread : readDocument fs (.settingsSyntax (settingsPath names)) (settingsPath names) with
    | ok table =>
      rw [hread] at h
      cases h
    | error e' =>
      rw [hread] at h
      cases h
      exact .inl (isDocumented_of_readDocument hfile hread trivial)
  | false =>
    have hfile : fs.isFile (projectPath names) = true :=
      hfiles _ (by simp) (contains_projectPath_of_not_passes hends hsettings)
    rw [settingsIn_of_not_contains hsettings] at h
    cases htable : projectTable fs (projectPath names) with
    | ok table? =>
      rw [htable] at h
      cases h
    | error e' =>
      rw [htable] at h
      cases h
      obtain hdoc | ⟨v, document, rfl, hread, hlookup, hv⟩ :=
        projectTable_eq_error_cases hfile htable
      · exact .inl hdoc
      · exact .inr ⟨v, hsettings, document, hread, hlookup, hv⟩

/-! ## Loading from one directory -/

/-- A table gives settings that pass their checks or ends with a documented fault, unless it has a
pattern that overtaxes. -/
theorem settingsOf_cases (root path : Path) (table : Toml.Table) :
    EndsAsDocumented (settingsOf root path table) ∨
      unknownNames table = [] ∧ ∃ fault, (RawSettings.ofTable root path table).Overtaxes fault := by
  cases hunknown : unknownNames table with
  | cons name names =>
    refine .inl (.inr ⟨.unknownKeys path (name :: names), ?_, trivial⟩)
    rw [settingsOf, hunknown]
  | nil =>
    rw [settingsOf_of_known hunknown]
    cases hcheck : (RawSettings.ofTable root path table).check with
    | ok s => exact .inl (.inl ⟨s, rfl, RawSettings.check_raw hcheck⟩)
    | error fault =>
      obtain hbad | ⟨fault, rfl, hover⟩ := RawSettings.check_eq_error_cases hcheck
      · exact .inl (.inr ⟨.setting fault, rfl, hbad⟩)
      · exact .inr ⟨rfl, fault, hover⟩

theorem loadFrom_cases {fs : FileSystem} {names : List String}
    (hfiles : HasReadableFiles fs names) (hends : ¬ Passes fs names) :
    EndsAsDocumented (loadFrom fs names) ∨ (∃ v, HasToolValue fs names v) ∨
      ∃ fault, HasOvertaxingPattern fs names fault := by
  rw [loadFrom]
  cases hin : settingsIn fs (Path.fromRoot names) with
  | error e =>
    obtain hdoc | htool := settingsIn_eq_error_cases hfiles hends hin
    · exact .inl (.inr ⟨e, rfl, hdoc⟩)
    · exact .inr (.inl htool)
  | ok found =>
    obtain ⟨path, table⟩ := found
    obtain hdoc | ⟨hknown, fault, hover⟩ := settingsOf_cases (Path.fromRoot names) path table
    · exact .inl hdoc
    · exact .inr (.inr ⟨fault, path, table, hin, hknown, hover⟩)

theorem HasToolValue.loadFrom_eq {fs : FileSystem} {names : List String} {v : Value}
    (h : HasToolValue fs names v) : loadFrom fs names = .error (.toolNotTable v) := by
  obtain ⟨hsettings, document, hread, hlookup, hv⟩ := h
  rw [loadFrom, settingsIn_of_not_contains hsettings, projectTable_of_toolValue hread hlookup hv]
  rfl

theorem HasOvertaxingPattern.loadFrom_eq {fs : FileSystem} {names : List String}
    {fault : Pattern.Fault} (h : HasOvertaxingPattern fs names fault) :
    loadFrom fs names = .error (.setting (.unusablePattern fault)) := by
  obtain ⟨path, table, hin, hknown, hover⟩ := h
  rw [loadFrom, hin]
  simp only [bind, Except.bind, settingsOf_of_known hknown, hover.check_eq]
  rfl

theorem not_endsAsDocumented_toolNotTable (v : Value) :
    ¬ EndsAsDocumented (.error (.toolNotTable v)) := by
  rintro (⟨s, hs, -⟩ | ⟨e, he, hdoc⟩)
  · cases hs
  · cases he
    exact hdoc

theorem RawSettings.Overtaxes.not_endsAsDocumented {r : RawSettings} {fault : Pattern.Fault}
    (h : r.Overtaxes fault) : ¬ EndsAsDocumented (.error (.setting (.unusablePattern fault))) := by
  rintro (⟨s, hs, -⟩ | ⟨e, he, hdoc⟩)
  · cases hs
  · cases he
    have hbad : fault.problem.kind = .badValue := hdoc
    simp [h.kind] at hbad

/-- Where the search ends, loading ends as it is documented exactly if neither the tools are no
table nor a pattern overtaxes. -/
theorem loadFrom_endsAsDocumented_iff {fs : FileSystem} {names : List String}
    (hfiles : HasReadableFiles fs names) (hends : ¬ Passes fs names) :
    EndsAsDocumented (loadFrom fs names) ↔
      (∀ v, ¬ HasToolValue fs names v) ∧ ∀ fault, ¬ HasOvertaxingPattern fs names fault := by
  constructor
  · intro hdoc
    refine ⟨fun v htool => ?_, fun fault hover => ?_⟩
    · rw [htool.loadFrom_eq] at hdoc
      exact not_endsAsDocumented_toolNotTable v hdoc
    · rw [hover.loadFrom_eq] at hdoc
      obtain ⟨path, table, -, -, hover⟩ := hover
      exact hover.not_endsAsDocumented hdoc
  · rintro ⟨htool, hover⟩
    obtain hdoc | ⟨v, hv⟩ | ⟨fault, hfault⟩ := loadFrom_cases hfiles hends
    · exact hdoc
    · exact absurd hv (htool v)
    · exact absurd hfault (hover fault)

/-! ## Runs -/

/-- A run reports itself exactly the documented faults, apart from that nothing is found. -/
theorem isReported_iff {e : LoadFault} : isReported e = true ↔ e.IsDocumented ∧ e ≠ .notFound := by
  cases e with
  | setting fault =>
    cases fault <;> simp [isReported, LoadFault.IsDocumented, SettingFault.IsBadValue]
  | _ => simp [isReported, LoadFault.IsDocumented]

theorem settingsFor_of_error {fs : FileSystem} {start : Option Path} {e : LoadFault}
    (h : loadSettings fs start = .error e) (hne : e ≠ .notFound) :
    settingsFor fs start = .error e := by
  rw [settingsFor, h]
  cases e with
  | notFound => exact absurd rfl hne
  | _ => rfl

theorem ending_fail (o : Command.Output) (host : Host) (json : Bool) (message : String)
    (code : Int) : (o.fail host json message code).ending = .exit code := by
  cases json <;> rfl

/-- A run whose settings cannot be loaded ends with code 2 if the fault is documented, and else
breaks off. -/
theorem ending_runCheck_of_error {fs : FileSystem} {r : CheckRequest} {e : LoadFault} (host : Host)
    (h : loadSettings fs (some (if fs.isDirectory r.path then r.path else r.path.parent)) =
      .error e) (hne : e ≠ .notFound) :
    (e.IsDocumented → (runCheck host fs r).ending = .exit 2) ∧
      (¬ e.IsDocumented → (runCheck host fs r).ending = .crash (.load e)) := by
  have hsettings : r.settings fs = .error e := by
    rw [CheckRequest.settings]
    simp only [settingsFor_of_error h hne]
    rfl
  rw [runCheck, hsettings]
  constructor
  · intro hdoc
    simp only [isReported_iff.mpr ⟨hdoc, hne⟩, if_true, ending_fail]
  · intro hdoc
    have hnot : isReported e = false :=
      Bool.eq_false_iff.mpr fun hyes => hdoc (isReported_iff.mp hyes).1
    simp only [hnot, Bool.false_eq_true, if_false]
    rfl

/-- The text `tool = 1` and a line feed. -/
def toolBytes : List UInt8 := [116, 111, 111, 108, 32, 61, 32, 49, 10]

/-- An empty working directory below a project file whose tools are a number. -/
def toolTree : FileSystem :=
  ⟨.directory [("work", .directory []), ("pyproject.toml", .file toolBytes)], ["work"]⟩

theorem locate_of_not_hasZero (fs : FileSystem) {p : Path} (h : p.hasZero = false) :
    fs.locate p = fs.goFrom true FileTree.linkLimit (fs.startOf p) p.names := by
  simp only [FileSystem.locate, h, Bool.false_eq_true, if_false]

/-- Of the files that settings are looked for in, the tree has the project file at its root only. -/
theorem locate_toolTree :
    toolTree.locate (settingsPath ["work"]) = .ok ⟨["work", "codesync.toml"], none⟩ ∧
    toolTree.locate (projectPath ["work"]) = .ok ⟨["work", "pyproject.toml"], none⟩ ∧
    toolTree.locate (settingsPath []) = .ok ⟨["codesync.toml"], none⟩ ∧
    toolTree.locate (projectPath []) = .ok ⟨["pyproject.toml"], some (.file toolBytes)⟩ := by
  refine ⟨?_, ?_, ?_, ?_⟩ <;> rw [locate_of_not_hasZero _ (by decide)] <;> cbv

theorem hasToolValue_toolTree : HasToolValue toolTree [] (.int 1) := by
  obtain ⟨-, -, hsettings, hproject⟩ := locate_toolTree
  have hdecode : Text.Utf8.decodeStrict toolBytes = .ok "tool = 1\n".toList := by cbv
  have htable : Toml.read "tool = 1\n".toList = .ok [("tool", .int 1)] := by cbv
  refine ⟨?_, [("tool", .int 1)], ?_, rfl, by simp⟩
  · simp only [FileSystem.contains, FileSystem.node, hsettings]
  · simp only [readDocument, FileSystem.read, FileSystem.node, hproject, hdecode, htable]

/-- The search passes the working directory by and ends at the root. -/
theorem endsAt_toolTree : EndsAt toolTree (upward ["work"]) [] := by
  obtain ⟨hsettings, hproject, -, hroot⟩ := locate_toolTree
  refine ⟨[["work"]], [], rfl, ?_, ?_⟩
  · rw [List.forall_mem_singleton]
    constructor <;> simp [FileSystem.contains, FileSystem.node, hsettings, hproject]
  · rintro ⟨-, hpass⟩
    obtain ⟨-, document, hread, hlookup, hv⟩ := hasToolValue_toolTree
    have hnone := hpass (by simp only [FileSystem.contains, FileSystem.node, hroot])
    cases (projectTable_of_toolValue hread hlookup hv).symm.trans hnone

end LabelTally
