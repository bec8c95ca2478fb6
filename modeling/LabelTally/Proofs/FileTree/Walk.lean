import LabelTally.FileTree.Walk
import LabelTally.Proofs.FileTree.Distinct

/-!
# A walk meets each file once

If no directory of a tree has two entries of one name, the names below the start tell the files of a
walk apart: those of one directory differ in the last name, and those below two entries of it differ
in the names of the entries.
-/

namespace LabelTally.FileTree

/-- A way that follows all links ends at a node of the tree. -/
theorem FileSystem.at?_of_goFrom {fs : FileSystem} {budget : Nat} {here todo names : List String}
    {n : Node} (h : fs.goFrom true budget here todo = .ok ⟨names, some n⟩) :
    fs.root.at? names = some n := by
  fun_induction FileSystem.goFrom fs true budget here todo with
  | case1 budget here =>
    obtain ⟨rfl, hnode⟩ := Place.mk.inj (Except.ok.inj h)
    exact hnode
  | _ => simp_all

/-- The entries that are listed are those of a directory of the tree. -/
theorem FileSystem.at?_of_list {fs : FileSystem} {p : Path} {names : List String}
    {entries : Entries} (h : fs.list p = .ok (names, entries)) :
    fs.root.at? names = some (.directory entries) := by
  rw [FileSystem.list] at h
  split at h
  · rename_i hlocate
    cases h
    rw [FileSystem.locate] at hlocate
    split at hlocate
    · cases hlocate
    · exact at?_of_goFrom hlocate
  all_goals cases h

/-- The names of the file that a step meets. -/
def Step.fileNames? : Step → Option (List String)
  | .skipped _ => none
  | .file names _ => some names

/-- The names of the files that are met. -/
def fileNames (steps : List Step) : List (List String) := steps.filterMap Step.fileNames?

/-- A file is met at an entry. -/
def Branch.isFile : Branch → Bool
  | .file _ => true
  | _ => false

/-- What is met below an entry. -/
def Branch.steps : Branch → List Step
  | .entered steps => steps
  | _ => []

/-- The files that are met below a directory: its own ones, then those below its entries. -/
theorem fileNames_assemble (names : List String) (branches : List (String × Branch)) :
    fileNames (assemble names branches) =
      ((sortByName branches).filter (·.2.isFile)).map (fun b => names ++ [b.1]) ++
        (sortByName branches).flatMap fun b => fileNames b.2.steps := by
  rw [assemble, fileNames, List.filterMap_append, List.filterMap_append]
  generalize sortByName branches = sorted
  refine congrArg₂ (· ++ ·) ?_ ?_
  · refine (congrArg₂ (· ++ ·) (List.filterMap_eq_nil_iff.mpr ?_) ?_).trans (List.nil_append _)
    · intro step hstep
      obtain ⟨⟨name, branch⟩, _, hbranch⟩ := List.mem_filterMap.mp hstep
      cases branch <;> cases hbranch
      rfl
    · induction sorted with
      | nil => rfl
      | cons b rest ih =>
        obtain ⟨name, branch⟩ := b
        cases branch <;> simpa [Step.fileNames?, Branch.isFile] using ih
  · rw [List.filterMap_flatMap]
    refine List.flatMap_congr fun b _ => ?_
    obtain ⟨name, branch⟩ := b
    cases branch <;> rfl

/-- Files are met only below these names, and no two at the same ones. -/
structure MeetsBelow (names : List String) (steps : List Step) : Prop where
  /-- The names of a file go on from the given ones. -/
  below : ∀ file ∈ fileNames steps, names <+: file ∧ names.length < file.length
  /-- No two files have the same names. -/
  distinct : (fileNames steps).Nodup

/-- Sorting keeps the names of entries distinct. -/
theorem nodup_sortByName {α : Type} {entries : List (String × α)}
    (h : (entries.map Prod.fst).Nodup) : ((sortByName entries).map Prod.fst).Nodup :=
  (((List.mergeSort_perm _ _).map Prod.fst).nodup_iff).mpr h

/-- In a directory with distinct names, files are met once if they are below each entry. -/
theorem meetsBelow_assemble {names : List String} {branches : List (String × Branch)}
    (hdistinct : (branches.map Prod.fst).Nodup)
    (hentered : ∀ b ∈ branches, MeetsBelow (names ++ [b.1]) b.2.steps) :
    MeetsBelow names (assemble names branches) := by
  have hsorted := nodup_sortByName hdistinct
  have hbelow : ∀ b ∈ sortByName branches, MeetsBelow (names ++ [b.1]) b.2.steps := fun b hb =>
    hentered b (List.mem_mergeSort.mp hb)
  have hpairs := List.pairwise_map.mp hsorted
  have hfiles := fileNames_assemble names branches
  generalize sortByName branches = sorted at hsorted hpairs hbelow hfiles
  constructor
  · intro file hfile
    rw [hfiles, List.mem_append, List.mem_map, List.mem_flatMap] at hfile
    rcases hfile with ⟨b, _, rfl⟩ | ⟨b, hb, hfile⟩
    · exact ⟨List.prefix_append _ _, by simp⟩
    · obtain ⟨hstarts, hlonger⟩ := (hbelow b hb).below file hfile
      rw [List.length_append, List.length_singleton] at hlonger
      exact ⟨(List.prefix_append _ _).trans hstarts, by omega⟩
  · rw [hfiles]
    refine List.nodup_append'.mpr ⟨?_, List.nodup_flatMap.mpr ⟨fun b hb => (hbelow b hb).distinct,
      ?_⟩, ?_⟩
    · refine List.pairwise_map.mpr ((hpairs.filter _).imp fun hne heq => hne ?_)
      simpa using heq
    · -- The names of the entry stand in those of a file below it.
      refine hpairs.imp_of_mem fun {a b} ha hb hne file hfile hfile' => hne ?_
      have hstarts := ((hbelow a ha).below file hfile).1
      have hstarts' := ((hbelow b hb).below file hfile').1
      have hsame := List.prefix_of_prefix_length_le hstarts hstarts' (by simp)
      simpa using hsame.eq_of_length (by simp)
    · -- A file of the directory has one name more than the directory, one further below has more.
      intro file hown hdeeper
      obtain ⟨b, _, rfl⟩ := List.mem_map.mp hown
      obtain ⟨b', hb', hfile⟩ := List.mem_flatMap.mp hdeeper
      have hlonger := ((hbelow b' hb').below _ hfile).2
      simp at hlonger

/-- The entries of a directory keep their names. -/
theorem Node.map_fst_branches (v : View) (names : List String) (entries : Entries) :
    (Node.branches v names entries).map Prod.fst = entries.map Prod.fst := by
  induction entries with
  | nil => rfl
  | cons e rest ih => simp [Node.branches, ih]

mutual

/-- What holds where nothing is met, and holds of a directory that is entered if it holds below its
entries, holds below every entry of a tree with distinct names. -/
theorem Node.steps_branch_induction {v : View}
    {P : List String → String → Node → List Step → Prop}
    (hnone : ∀ here name n, n.child? = (fun _ => none) ∨ v.leavesOut here name = true →
      P here name n [])
    (hentered : ∀ here name entries, v.leavesOut here name = false →
      (entries.map Prod.fst).Nodup →
      (∀ e ∈ entries, P (here ++ [e.1]) e.1 e.2 (e.2.branch v (here ++ [e.1]) e.1).steps) →
      P here name (.directory entries) (assemble here (Node.branches v here entries)))
    (here : List String) (name : String) :
    ∀ n : Node, n.IsDistinct → P here name n (n.branch v here name).steps
  | .file content, _ => by
    rw [Node.branch]
    split <;> exact hnone here name _ (Or.inl rfl)
  | .link target, _ => by
    rw [Node.branch]
    split <;> exact hnone here name _ (Or.inl rfl)
  | .directory entries, h => by
    rw [Node.IsDistinct] at h
    rw [Node.branch]
    split
    · exact hnone here name _ (Or.inr ‹_›)
    · rename_i hout
      refine hentered here name entries (Bool.eq_false_iff.mpr hout) h.1 ?_
      exact Node.steps_branches_induction hnone hentered here entries h.2

/-- The same below each entry of a directory. -/
theorem Node.steps_branches_induction {v : View}
    {P : List String → String → Node → List Step → Prop}
    (hnone : ∀ here name n, n.child? = (fun _ => none) ∨ v.leavesOut here name = true →
      P here name n [])
    (hentered : ∀ here name entries, v.leavesOut here name = false →
      (entries.map Prod.fst).Nodup →
      (∀ e ∈ entries, P (here ++ [e.1]) e.1 e.2 (e.2.branch v (here ++ [e.1]) e.1).steps) →
      P here name (.directory entries) (assemble here (Node.branches v here entries)))
    (here : List String) :
    ∀ entries : Entries, Node.AreDistinct entries →
      ∀ e ∈ entries, P (here ++ [e.1]) e.1 e.2 (e.2.branch v (here ++ [e.1]) e.1).steps
  | [], _ => by simp
  | (name, n) :: rest, h => by
    rw [Node.AreDistinct] at h
    refine List.forall_mem_cons.mpr ⟨?_, Node.steps_branches_induction hnone hentered here rest h.2⟩
    exact Node.steps_branch_induction hnone hentered (here ++ [name]) name n h.1

end

/-- The entries of a directory become branches one by one. -/
theorem Node.mem_branches {v : View} {here : List String} {entries : Entries}
    {b : String × Branch} :
    b ∈ Node.branches v here entries ↔
      ∃ e ∈ entries, b = (e.1, e.2.branch v (here ++ [e.1]) e.1) := by
  induction entries with
  | nil => simp [Node.branches]
  | cons e rest ih => simp [Node.branches, ih]

/-- Files are met once in a directory if they are below each of its entries. -/
theorem meetsBelow_branches {v : View} {here : List String} {entries : Entries}
    (hdistinct : (entries.map Prod.fst).Nodup)
    (hbelow : ∀ e ∈ entries, MeetsBelow (here ++ [e.1]) (e.2.branch v (here ++ [e.1]) e.1).steps) :
    MeetsBelow here (assemble here (Node.branches v here entries)) := by
  refine meetsBelow_assemble ?_ fun b hb => ?_
  · rw [Node.map_fst_branches]
    exact hdistinct
  · obtain ⟨e, he, rfl⟩ := Node.mem_branches.mp hb
    exact hbelow e he

/-- Each file below an entry is met once. -/
theorem Node.meetsBelow_branch (v : View) (here : List String) (name : String) {n : Node}
    (h : n.IsDistinct) : MeetsBelow here (n.branch v here name).steps := by
  refine Node.steps_branch_induction (P := fun here _ _ steps => MeetsBelow here steps) ?_ ?_ here
    name n h
  · exact fun here _ _ _ => ⟨by simp [fileNames], List.nodup_nil⟩
  · intro here _ entries _ hdistinct hbelow
    exact meetsBelow_branches hdistinct hbelow

/-- Each file is met once below the entries of a directory with distinct names. -/
theorem meetsBelow_walkEntries (v : View) {entries : Entries}
    (h : (Node.directory entries).IsDistinct) : MeetsBelow [] (walkEntries v entries) := by
  rw [Node.IsDistinct, Node.areDistinct_iff] at h
  exact meetsBelow_branches h.1 fun e he => Node.meetsBelow_branch v _ _ (h.2 e he)

/-- A walk that is made meets the file it starts at, or goes through the directory it starts at with
the rules of some filter. -/
theorem FileSystem.walk_cases {fs : FileSystem} {root : Path} {o : WalkOptions} {steps : List Step}
    (h : (fs.walk root o).steps = .ok steps) :
    (∃ content, fs.node root = .ok (.file content) ∧ steps = [.file [] content]) ∨
      ∃ start entries filter, fs.list root = .ok (start, entries) ∧
        steps = walkEntries (fs.view start filter) entries := by
  rw [FileSystem.walk] at h
  split at h
  · rename_i content hnode
    cases h
    exact Or.inl ⟨content, hnode, rfl⟩
  · simp only [bind, Except.bind] at h
    split at h
    · cases h
    · rename_i filter _
      cases hlist : fs.list root with
      | error e =>
        rw [hlist] at h
        cases h
      | ok found =>
        rw [hlist] at h
        cases h
        exact Or.inr ⟨found.1, found.2, filter, rfl, rfl⟩

/-- A walk through a tree with distinct names meets each file once. -/
theorem FileSystem.nodup_fileNames_walk {fs : FileSystem} (h : fs.root.IsDistinct) {root : Path}
    {o : WalkOptions} {steps : List Step} (hsteps : (fs.walk root o).steps = .ok steps) :
    (fileNames steps).Nodup := by
  rcases FileSystem.walk_cases hsteps with ⟨content, _, rfl⟩ | ⟨start, entries, filter, hlist, rfl⟩
  · exact List.nodup_singleton _
  · exact (meetsBelow_walkEntries _ (h.at? (FileSystem.at?_of_list hlist))).distinct

end LabelTally.FileTree
