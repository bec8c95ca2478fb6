import LabelTally.Collection.Gather
import LabelTally.Proofs.FileTree.Admission

/-!
# What a gathered collection holds

A file with matches keeps the bytes that they were scanned from, which are those that stand in the
tree at its place. In a tree with distinct names no two files of a collection have the same path.
-/

namespace LabelTally

open FileTree (FileSystem Step WalkOptions fileNames)

/-- The matches of a file, if it has any, are those that a scan of the kept bytes gives. -/
def ScannedFile.IsRead (scan : Scanner) (f : ScannedFile) : Prop :=
  f.found ≠ [] → ∃ data, f.content = some data ∧ scan data = .ok f.found

/-- Each file of a collection was read by a scan, and paths tell the files apart. -/
structure Collection.IsRead (scan : Scanner) (c : Collection) : Prop where
  /-- No two files have the same path. -/
  distinct : (c.files.map (·.path)).Nodup
  /-- The matches of each file are those of its bytes. -/
  read : ∀ f ∈ c.files, f.IsRead scan

/-- A scanned file has its path, and with matches it keeps the bytes that were scanned. -/
theorem scanFile_eq_ok {scan : Scanner} {path : Path} {content : List UInt8} {f : ScannedFile}
    (h : scanFile scan path content = .ok f) :
    f.path = path ∧ (f.found ≠ [] → f.content = some content ∧ scan content = .ok f.found) := by
  rw [scanFile] at h
  split at h
  · cases h
    exact ⟨rfl, fun hne => absurd rfl hne⟩
  · split at h
    · cases h
    · rename_i found hscan
      cases h
      refine ⟨rfl, fun hne => ⟨?_, hscan⟩⟩
      rw [if_neg (by simpa using hne)]

/-- Scanning a file and what comes behind it succeeds if both do. -/
theorem scanSteps_file_eq_ok {scan : Scanner} {root : Path} {names : List String}
    {content : List UInt8} {rest : List Step} {files : List ScannedFile}
    (h : (scanSteps scan root (.file names content :: rest)).2 = .ok files) :
    ∃ file more, scanFile scan (root.below names) content = .ok file ∧
      (scanSteps scan root rest).2 = .ok more ∧ files = file :: more := by
  rw [scanSteps] at h
  split at h
  · cases h
  · rename_i file hfile
    dsimp only at h
    cases hrest : (scanSteps scan root rest).2 with
    | error e =>
      rw [hrest] at h
      cases h
    | ok more =>
      rw [hrest] at h
      cases h
      exact ⟨file, more, hfile, rfl, rfl⟩

/-- What is scanned on a walk are the files that it meets, in their order. -/
theorem paths_of_scanSteps {scan : Scanner} {root : Path} {steps : List Step}
    {files : List ScannedFile} (h : (scanSteps scan root steps).2 = .ok files) :
    files.map (·.path) = (fileNames steps).map root.below := by
  induction steps generalizing files with
  | nil =>
    cases h
    rfl
  | cons step rest ih =>
    cases step with
    | skipped names => exact ih h
    | file names content =>
      obtain ⟨file, more, hfile, hrest, rfl⟩ := scanSteps_file_eq_ok h
      rw [List.map_cons, (scanFile_eq_ok hfile).1, ih hrest]
      rfl

/-- Each file that is scanned on a walk is one that it meets. -/
theorem exists_step_of_scanSteps {scan : Scanner} {root : Path} {steps : List Step}
    {files : List ScannedFile} (h : (scanSteps scan root steps).2 = .ok files) :
    ∀ f ∈ files, ∃ names content, Step.file names content ∈ steps ∧
      scanFile scan (root.below names) content = .ok f := by
  induction steps generalizing files with
  | nil =>
    cases h
    simp
  | cons step rest ih =>
    cases step with
    | skipped names =>
      intro f hf
      obtain ⟨names, content, hmem, hscan⟩ := ih h f hf
      exact ⟨names, content, List.mem_cons_of_mem _ hmem, hscan⟩
    | file names content =>
      obtain ⟨file, more, hfile, hrest, rfl⟩ := scanSteps_file_eq_ok h
      refine List.forall_mem_cons.mpr ⟨⟨names, content, List.mem_cons_self, hfile⟩, fun f hf => ?_⟩
      obtain ⟨names, content, hmem, hscan⟩ := ih hrest f hf
      exact ⟨names, content, List.mem_cons_of_mem _ hmem, hscan⟩

/-- A collection that is gathered comes from scanning what a walk meets. -/
theorem gather_eq_ok {fs : FileSystem} {scan : Scanner} {root : Path} {o : WalkOptions}
    {c : Collection} (h : (gather fs scan root o).result = .ok c) :
    ∃ steps, (fs.walk root o).steps = .ok steps ∧ (scanSteps scan root steps).2 = .ok c.files := by
  rw [gather] at h
  split at h
  · cases h
  · rename_i steps hsteps
    split at h
    · cases h
    · rename_i log files hfiles
      cases h
      exact ⟨steps, hsteps, congrArg Prod.snd hfiles⟩

/-- A collection that is gathered from a tree with distinct names was read. -/
theorem isRead_of_gather {fs : FileSystem} (hfs : fs.root.IsDistinct) {scan : Scanner} {root : Path}
    {o : WalkOptions} {c : Collection} (h : (gather fs scan root o).result = .ok c) :
    c.IsRead scan := by
  obtain ⟨steps, hsteps, hfiles⟩ := gather_eq_ok h
  constructor
  · rw [paths_of_scanSteps hfiles]
    refine (FileSystem.nodup_fileNames_walk hfs hsteps).map fun names names' heq => ?_
    simpa [Path.below] using heq
  · intro f hf hne
    obtain ⟨names, content, _, hscan⟩ := exists_step_of_scanSteps hfiles f hf
    exact ⟨content, (scanFile_eq_ok hscan).2 hne⟩

/-- The bytes that a file with matches keeps are those that stand in the tree at its place. -/
theorem exists_node_of_gather {fs : FileSystem} (hfs : fs.root.IsDistinct) {scan : Scanner}
    {root : Path} {o : WalkOptions} {c : Collection} (h : (gather fs scan root o).result = .ok c)
    {f : ScannedFile} (hf : f ∈ c.files) (hne : f.found ≠ []) :
    ∃ n names data, fs.node root = .ok n ∧ f.path = root.below names ∧
      n.at? names = some (.file data) ∧ f.content = some data := by
  obtain ⟨steps, hsteps, hfiles⟩ := gather_eq_ok h
  obtain ⟨names, data, hmem, hscan⟩ := exists_step_of_scanSteps hfiles f hf
  obtain ⟨hpath, hkept⟩ := scanFile_eq_ok hscan
  obtain ⟨n, hnode, hat⟩ := FileSystem.at?_of_mem_walk hfs hsteps hmem
  exact ⟨n, names, data, hnode, hpath, hat, (hkept hne).1⟩

end LabelTally
