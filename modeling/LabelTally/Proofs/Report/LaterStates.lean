import LabelTally.Command.Run
import LabelTally.Proofs.Check.Locations
import LabelTally.Proofs.Collection.Gather
import LabelTally.Proofs.Report.Layout

/-!
# Reports after the tree has changed

Findings point only at files with matches, and the bytes of those are kept. So whatever becomes of
the files after a scan, each place of a finding is looked up in the bytes that were scanned, and
printing the findings never fails for want of a source.
-/

namespace LabelTally.Report

open FileTree (FileSystem)

/-- A place that a match of a gathered collection can be blamed for stands in a file of the tree,
and the bytes of the file are kept. -/
theorem exists_kept_of_isBlamed {fs : FileSystem} (hfs : fs.root.IsDistinct) {scan : Scanner}
    {root : Path} {walk : FileTree.WalkOptions} {c : Collection}
    (hgather : (gather fs scan root walk).result = .ok c) {l : Check.Location} (hl : l.IsBlamed c) :
    ∃ n names data, fs.node root = .ok n ∧ l.path = root.below names ∧
      n.at? names = some (.file data) ∧ Sources.kept? { scanned := c } l.path = some data := by
  obtain ⟨file, hfile, m, hm, hpath, _⟩ := hl
  obtain ⟨n, names, data, hnode, hbelow, hat, hcontent⟩ :=
    exists_node_of_gather hfs hgather hfile (List.ne_nil_of_mem hm)
  have hkept := Sources.kept?_of_mem (s := { scanned := c })
    (isRead_of_gather hfs hgather).distinct hfile
  rw [hpath, hcontent] at hkept
  exact ⟨n, names, data, hnode, hpath ▸ hbelow, hat, hkept⟩

section Kept

variable {s : Sources} (now : FileSystem)

/-- A message about files whose bytes are kept can fail to be shown only for its paths, and nothing
changes. -/
theorem render_cases_of_kept {d : Diagnostic} (h : ∀ l ∈ d.locations, (s.kept? l.path).isSome) :
    (∃ t, render now s d = (s, .ok t)) ∨ ∃ e, render now s d = (s, .error (.unresolved e)) := by
  cases hshown : displayAll now (d.locations.map (·.path)) with
  | ok shown => exact Or.inl ⟨_, render_of_kept h hshown⟩
  | error e =>
    refine Or.inr ⟨e, ?_⟩
    rw [render, Sources.locateAll_of_kept now h]
    dsimp only
    rw [hshown]

/-- Findings about files whose bytes are kept are printed without a fault of a source. -/
theorem printFindings_of_kept {findings : List Check.Finding}
    (h : ∀ f ∈ findings, ∀ l ∈ f.locations, (s.kept? l.path).isSome) (e : FileTree.Fault) :
    (printFindings now s findings).2.2 ≠ some (.source e) := by
  induction findings with
  | nil => simp [printFindings]
  | cons f rest ih =>
    obtain ⟨hf, hrest⟩ := List.forall_mem_cons.mp h
    rcases render_cases_of_kept now (d := ofFinding f) hf with ⟨t, ht⟩ | ⟨e, he⟩
    · rw [printFindings, ht]
      exact ih hrest
    · rw [printFindings, he]
      simp

end Kept

/-- A report without a fault of a source is printed without a message about one: nothing is added to
the errors, and the run does not break off for a path. -/
theorem printReport_of_readable {host : Command.Host} {now : FileSystem} {summary : Bool}
    {count : Int} {c : Collection} {report : Check.Report} {out : Command.Output}
    (h : ∀ e, (printFindings now { scanned := c } report.findings).2.2 ≠ some (.source e)) :
    (Command.printReport host now summary count c report out).stderr = out.stderr ∧
      ∀ e, (Command.printReport host now summary count c report out).ending ≠ .crash (.path e) := by
  rw [Command.printReport]
  generalize printFindings now { scanned := c } report.findings = printed at h
  obtain ⟨s, text, fault⟩ := printed
  cases fault with
  | none => exact ⟨rfl, by simp⟩
  | some fault =>
    cases fault with
    | source e => exact absurd rfl (h e)
    | unresolved e => exact ⟨rfl, by simp [Command.Output.breakOff]⟩

/-- Every place of every finding about a gathered collection is looked up in the bytes that stood in
the tree when it was scanned, whatever the file system holds by now, and leaves the sources as they
are. So a check prints its report without a message about a source that cannot be read. -/
theorem locate_reads_only_scanned {fs : FileSystem} (hfs : fs.root.IsDistinct) {scan : Scanner}
    {root : Path} {walk : FileTree.WalkOptions} {c : Collection}
    (hgather : (gather fs scan root walk).result = .ok c) (o : Check.Options) :
    (∀ f ∈ (Check.run o c).findings, ∀ l ∈ f.locations,
      ∃ n names data, fs.node root = .ok n ∧ l.path = root.below names ∧
        n.at? names = some (.file data) ∧
        ∀ now, Sources.locate { scanned := c } now l =
          .ok (Report.locate data l.span, { scanned := c })) ∧
    ∀ host now summary count out,
      (Command.printReport host now summary count c (Check.run o c) out).stderr = out.stderr ∧
      ∀ e, (Command.printReport host now summary count c (Check.run o c) out).ending ≠
        .crash (.path e) := by
  have hkept : ∀ f ∈ (Check.run o c).findings, ∀ l ∈ f.locations, _ := fun f hf l hl =>
    exists_kept_of_isBlamed hfs hgather (Check.isBlamed_of_mem_run hf hl)
  constructor
  · intro f hf l hl
    obtain ⟨n, names, data, hnode, hpath, hat, hdata⟩ := hkept f hf l hl
    exact ⟨n, names, data, hnode, hpath, hat, fun now => Sources.locate_of_kept hdata now⟩
  · intro host now summary count out
    refine printReport_of_readable (printFindings_of_kept now fun f hf l hl => ?_)
    obtain ⟨n, names, data, _, _, _, hdata⟩ := hkept f hf l hl
    rw [hdata]
    rfl

/-- One annotation that asks for a second one. -/
def loneBytes : List UInt8 := [67, 79, 68, 69, 83, 89, 78, 67, 40, 120, 41]

/-- A tree with one file, which holds the annotation. -/
def loneTree : FileSystem := ⟨.directory [("a.c", .file loneBytes)], []⟩

/-- What a scan of the tree finds. -/
def loneFound : Collection :=
  ⟨[⟨⟨.workDir, ["a.c"]⟩, [⟨0, .valid ⟨⟨"x", "x", ⟨9, 10⟩⟩, none, 3⟩, 8⟩], some loneBytes⟩]⟩

/-- The place of the finding is still found after the file has been removed, and the report is
printed without an error. -/
theorem locate_after_removal :
    ∃ f l, (gather loneTree (Comment.scan Comment.marker) Path.here ⟨false, []⟩).result =
        .ok loneFound ∧
      f ∈ (Check.run {} loneFound).findings ∧ l ∈ f.locations ∧
      Sources.locate { scanned := loneFound } ⟨.directory [], []⟩ l =
        .ok (Report.locate loneBytes l.span, { scanned := loneFound }) ∧
      (Command.printReport {} ⟨.directory [], []⟩ false 2 loneFound (Check.run {} loneFound)
        {}).stderr = "" := by
  have hdistinct : loneTree.root.IsDistinct := by
    simp [loneTree, FileTree.Node.IsDistinct, FileTree.Node.AreDistinct]
  have hgather : (gather loneTree (Comment.scan Comment.marker) Path.here ⟨false, []⟩).result =
      .ok loneFound := by cbv
  have hrun : (Check.run {} loneFound).findings =
      [⟨.countMismatch, "expected 2 comments with label `x`, found 1",
        [⟨⟨.workDir, ["a.c"]⟩, ⟨0, 11⟩⟩], [], none⟩] := by cbv
  have hf := hrun ▸ List.mem_singleton_self _
  obtain ⟨hlocate, hprint⟩ := locate_reads_only_scanned hdistinct hgather {}
  obtain ⟨n, names, data, hnode, hpath, hat, hnow⟩ := hlocate _ hf _ List.mem_cons_self
  have hroot : loneTree.node Path.here = .ok loneTree.root := by cbv
  have hdata : data = loneBytes := by
    cases hroot.symm.trans hnode
    cases hpath
    cases hat
    rfl
  exact ⟨_, _, hgather, hf, List.mem_cons_self, hdata ▸ hnow _, (hprint {} _ false 2 {}).1⟩

end LabelTally.Report
