import LabelTally.Proofs.FileTree.Walk

/-!
# Which files a walk meets

A walk meets a file exactly if the file stands in the tree, no directory on the way to it is left
out and it is not ignored itself. The files come in a fixed order: where two ways part, a file of
the directory comes before what is below one of its entries, and otherwise names decide.
-/

namespace LabelTally.FileTree

/-- A walk goes from one directory down to a file: it enters all directories on the way, and the
file is not ignored. -/
structure View.Admits (v : View) (here below : List String) : Prop where
  /-- No directory on the way is left out. -/
  entered : ∀ dir name rest, below = dir ++ name :: rest → rest ≠ [] →
    v.leavesOut (here ++ dir ++ [name]) name = false
  /-- The file is not ignored. -/
  kept : v.ignored (here ++ below) false = false

/-- A file of the directory itself has no directory on its way. -/
theorem View.admits_singleton {v : View} {here : List String} {name : String} :
    v.Admits here [name] ↔ v.ignored (here ++ [name]) false = false := by
  refine ⟨View.Admits.kept, fun h => ⟨fun dir last rest heq hne => ?_, h⟩⟩
  cases dir with
  | nil => exact absurd (List.cons.inj heq).2.symm hne
  | cons first dir => simp at heq

/-- A way into a directory goes on from there. -/
theorem View.admits_cons {v : View} {here rest : List String} {name : String} (hne : rest ≠ []) :
    v.Admits here (name :: rest) ↔
      v.leavesOut (here ++ [name]) name = false ∧ v.Admits (here ++ [name]) rest := by
  constructor
  · intro h
    refine ⟨by simpa using h.entered [] name rest rfl hne, fun dir last more heq hmore => ?_, ?_⟩
    · simpa using h.entered (name :: dir) last more (by rw [heq]; rfl) hmore
    · simpa using h.kept
  · rintro ⟨hfirst, h⟩
    refine ⟨fun dir last more heq hmore => ?_, by simpa using h.kept⟩
    cases dir with
    | nil =>
      obtain ⟨rfl, rfl⟩ := List.cons.inj heq
      simpa using hfirst
    | cons first dir =>
      obtain ⟨rfl, hrest⟩ := List.cons.inj heq
      simpa using h.entered dir last more hrest hmore

/-- A file is met in a directory if it is one of its own files or is met below an entry. -/
theorem mem_assemble {here names : List String} {branches : List (String × Branch)}
    {content : List UInt8} :
    Step.file names content ∈ assemble here branches ↔
      ∃ b ∈ branches, b.2 = .file content ∧ names = here ++ [b.1] ∨
        Step.file names content ∈ b.2.steps := by
  have hsort : ∀ b, b ∈ sortByName branches ↔ b ∈ branches := fun b => List.mem_mergeSort
  simp only [assemble, List.mem_append, List.mem_filterMap, List.mem_flatMap, hsort]
  constructor
  · rintro ((⟨⟨name, branch⟩, _, h⟩ | ⟨⟨name, branch⟩, hb, h⟩) | ⟨⟨name, branch⟩, hb, h⟩)
    · cases branch <;> cases h
    · cases branch <;> cases h
      exact ⟨_, hb, Or.inl ⟨rfl, rfl⟩⟩
    · cases branch <;> exact ⟨_, hb, Or.inr h⟩
  · rintro ⟨⟨name, branch⟩, hb, ⟨rfl, rfl⟩ | h⟩
    · exact Or.inl (Or.inr ⟨_, hb, rfl⟩)
    · cases branch <;> exact Or.inr ⟨_, hb, h⟩

/-- Among entries with distinct names, an entry is what its name stands for. -/
theorem mem_iff_lookup {α : Type} {entries : List (String × α)} (h : (entries.map Prod.fst).Nodup)
    {name : String} {a : α} : (name, a) ∈ entries ↔ entries.lookup name = some a := by
  rw [List.lookup_eq_some_iff]
  constructor
  · intro hmem
    obtain ⟨before, after, rfl⟩ := List.append_of_mem hmem
    refine ⟨before, after, rfl, fun e he => bne_iff_ne.mpr ?_⟩
    rw [List.map_append, List.map_cons, List.nodup_append] at h
    exact (h.2.2 e.1 (List.mem_map_of_mem he) name List.mem_cons_self).symm
  · rintro ⟨before, after, rfl, _⟩
    exact List.mem_append_right _ List.mem_cons_self

/-- An entry becomes a file that is met exactly if it is a file that is not ignored. -/
theorem Node.branch_eq_file_iff {v : View} {names : List String} {name : String} {n : Node}
    {content : List UInt8} :
    n.branch v names name = .file content ↔ n = .file content ∧ v.ignored names false = false := by
  cases n with
  | file bytes => cases h : v.ignored names false <;> simp [Node.branch, h]
  | link target =>
    simp only [Node.branch, reduceCtorEq, false_and, iff_false]
    split <;> simp
  | directory entries =>
    simp only [Node.branch, reduceCtorEq, false_and, iff_false]
    split <;> simp

/-- A file with its bytes stands below a directory, and a walk from there comes to it. -/
def Admitted (v : View) (here : List String) (n : Node) (names : List String)
    (content : List UInt8) : Prop :=
  ∃ below, below ≠ [] ∧ names = here ++ below ∧ n.at? below = some (.file content) ∧
    v.Admits here below

/-- What is met in a directory, from what is met below each of its entries. -/
theorem mem_assemble_branches {v : View} {here : List String} {entries : Entries}
    (hdistinct : (entries.map Prod.fst).Nodup)
    (hentered : ∀ e ∈ entries, ∀ names content,
      Step.file names content ∈ (e.2.branch v (here ++ [e.1]) e.1).steps ↔
        v.leavesOut (here ++ [e.1]) e.1 = false ∧ Admitted v (here ++ [e.1]) e.2 names content)
    (names : List String) (content : List UInt8) :
    Step.file names content ∈ assemble here (Node.branches v here entries) ↔
      Admitted v here (.directory entries) names content := by
  rw [mem_assemble]
  constructor
  · rintro ⟨b, hb, hstep⟩
    obtain ⟨⟨name, n⟩, he, rfl⟩ := Node.mem_branches.mp hb
    have hname := (mem_iff_lookup hdistinct).mp he
    rcases hstep with ⟨hfile, rfl⟩ | hbelow
    · obtain ⟨rfl, hkept⟩ := Node.branch_eq_file_iff.mp hfile
      refine ⟨[name], List.cons_ne_nil _ _, rfl, ?_, View.admits_singleton.mpr hkept⟩
      simp only [Node.at?, Node.child?, hname]
    · obtain ⟨hout, below, hne, rfl, hat, hadmits⟩ := (hentered _ he names content).mp hbelow
      refine ⟨name :: below, List.cons_ne_nil _ _, by simp, ?_,
        (View.admits_cons hne).mpr ⟨hout, hadmits⟩⟩
      simp only [Node.at?, Node.child?, hname, hat]
  · rintro ⟨below, hne, rfl, hat, hadmits⟩
    cases below with
    | nil => exact absurd rfl hne
    | cons name rest =>
      rw [Node.at?, Node.child?] at hat
      cases hname : entries.lookup name with
      | none =>
        rw [hname] at hat
        cases hat
      | some n =>
        rw [hname] at hat
        have he := (mem_iff_lookup hdistinct).mpr hname
        refine ⟨_, Node.mem_branches.mpr ⟨_, he, rfl⟩, ?_⟩
        cases rest with
        | nil =>
          cases hat
          exact Or.inl ⟨Node.branch_eq_file_iff.mpr ⟨rfl, hadmits.kept⟩, rfl⟩
        | cons next rest =>
          obtain ⟨hout, hrest⟩ := (View.admits_cons (List.cons_ne_nil _ _)).mp hadmits
          refine Or.inr ((hentered _ he _ content).mpr ?_)
          exact ⟨hout, next :: rest, List.cons_ne_nil _ _, by simp, hat, hrest⟩

/-- Below an entry exactly the files are met that a walk comes to. -/
theorem Node.mem_steps_branch_iff (v : View) (here : List String) (name : String) {n : Node}
    (h : n.IsDistinct) (names : List String) (content : List UInt8) :
    Step.file names content ∈ (n.branch v here name).steps ↔
      v.leavesOut here name = false ∧ Admitted v here n names content := by
  refine Node.steps_branch_induction (P := fun here name n steps => ∀ names content,
    Step.file names content ∈ steps ↔ v.leavesOut here name = false ∧
      Admitted v here n names content) ?_ ?_ here name n h names content
  · intro here name n hnone names content
    refine iff_of_false List.not_mem_nil ?_
    rintro ⟨hout, below, hne, _, hat, _⟩
    rcases hnone with hchild | hskip
    · obtain ⟨first, rest, rfl⟩ := List.exists_cons_of_ne_nil hne
      rw [Node.at?, hchild] at hat
      cases hat
    · rw [hout] at hskip
      cases hskip
  · intro here name entries hout hdistinct hbelow names content
    rw [mem_assemble_branches hdistinct hbelow]
    exact (and_iff_right hout).symm

/-- Below the entries of a directory exactly the files are met that a walk comes to. -/
theorem mem_walkEntries_iff (v : View) {entries : Entries} (h : (Node.directory entries).IsDistinct)
    {names : List String} {content : List UInt8} :
    Step.file names content ∈ walkEntries v entries ↔
      (Node.directory entries).at? names = some (.file content) ∧ v.Admits [] names := by
  rw [Node.IsDistinct, Node.areDistinct_iff] at h
  rw [walkEntries, mem_assemble_branches h.1 fun e he =>
    Node.mem_steps_branch_iff v _ _ (h.2 e he)]
  constructor
  · rintro ⟨below, _, rfl, hat, hadmits⟩
    exact ⟨hat, hadmits⟩
  · rintro ⟨hat, hadmits⟩
    refine ⟨names, ?_, rfl, hat, hadmits⟩
    rintro rfl
    cases hat

/-- Where the ways to two files part, a file of the directory comes before what is below one of its
entries; otherwise names decide. -/
def Precedes (first second : List String) : Prop :=
  ∃ common a b rest rest', first = common ++ a :: rest ∧ second = common ++ b :: rest' ∧ a ≠ b ∧
    (rest = [] ∧ rest' ≠ [] ∨ (rest = [] ↔ rest' = []) ∧ a < b)

/-- Entries with distinct names stand in increasing order of their names after sorting. -/
theorem pairwise_sortByName {α : Type} {entries : List (String × α)}
    (h : (entries.map Prod.fst).Nodup) :
    (sortByName entries).Pairwise fun a b => a.1 < b.1 := by
  have hsorted : (sortByName entries).Pairwise fun a b => decide (a.1 ≤ b.1) = true := by
    refine List.pairwise_mergeSort (fun a b c hab hbc => ?_) (fun a b => ?_) entries
    · exact decide_eq_true ((of_decide_eq_true hab).trans (of_decide_eq_true hbc))
    · simpa using String.le_total a.1 b.1
  have hnodup := List.pairwise_map.mp (nodup_sortByName h)
  exact (hsorted.and hnodup).imp fun hab => lt_of_le_of_ne (of_decide_eq_true hab.1) hab.2

/-- Nothing is met below an entry that is a file. -/
theorem Branch.steps_of_isFile {b : Branch} (h : b.isFile = true) : b.steps = [] := by
  cases b with
  | file content => rfl
  | skipped => cases h
  | entered steps => cases h
  | passed => cases h

/-- In a directory with distinct names files stand in order if they do below each entry. -/
theorem pairwise_precedes_assemble {here : List String} {branches : List (String × Branch)}
    (hdistinct : (branches.map Prod.fst).Nodup)
    (hbelow : ∀ b ∈ branches, MeetsBelow (here ++ [b.1]) b.2.steps)
    (hordered : ∀ b ∈ branches, (fileNames b.2.steps).Pairwise Precedes) :
    (fileNames (assemble here branches)).Pairwise Precedes := by
  have hsort : ∀ b, b ∈ sortByName branches ↔ b ∈ branches := fun b => List.mem_mergeSort
  have hnames := pairwise_sortByName hdistinct
  -- The names of a file below an entry go on from those of the entry.
  have hdeeper : ∀ b ∈ branches, ∀ file ∈ fileNames b.2.steps,
      ∃ rest, rest ≠ [] ∧ file = here ++ b.1 :: rest := by
    intro b hb file hfile
    obtain ⟨⟨rest, rfl⟩, hlonger⟩ := (hbelow b hb).below file hfile
    refine ⟨rest, ?_, by simp⟩
    rintro rfl
    simp at hlonger
  rw [fileNames_assemble, List.pairwise_append, List.pairwise_map, List.pairwise_flatMap]
  refine ⟨(hnames.filter _).imp fun {a b} hab => ?_, ⟨fun b hb => hordered b ((hsort b).mp hb),
    hnames.imp_of_mem fun {a b} ha hb hab x hx y hy => ?_⟩, fun x hx y hy => ?_⟩
  · exact ⟨here, a.1, b.1, [], [], rfl, rfl, ne_of_lt hab, Or.inr ⟨Iff.rfl, hab⟩⟩
  · obtain ⟨rest, hrest, rfl⟩ := hdeeper a ((hsort a).mp ha) x hx
    obtain ⟨rest', hrest', rfl⟩ := hdeeper b ((hsort b).mp hb) y hy
    exact ⟨here, a.1, b.1, rest, rest', rfl, rfl, ne_of_lt hab,
      Or.inr ⟨iff_of_false hrest hrest', hab⟩⟩
  · obtain ⟨a, ha, rfl⟩ := List.mem_map.mp hx
    obtain ⟨hmem, hfile⟩ := List.mem_filter.mp ha
    obtain ⟨b, hb, hy⟩ := List.mem_flatMap.mp hy
    obtain ⟨rest, hrest, rfl⟩ := hdeeper b ((hsort b).mp hb) y hy
    refine ⟨here, a.1, b.1, [], rest, rfl, rfl, fun hsame => ?_, Or.inl ⟨rfl, hrest⟩⟩
    obtain rfl := List.inj_on_of_nodup_map hdistinct ((hsort a).mp hmem) ((hsort b).mp hb) hsame
    rw [Branch.steps_of_isFile hfile] at hy
    cases hy

/-- Files are met in order in a directory if they are below each of its entries. -/
theorem pairwise_precedes_branches {v : View} {here : List String} {entries : Entries}
    (hdistinct : (entries.map Prod.fst).Nodup)
    (hbelow : ∀ e ∈ entries, MeetsBelow (here ++ [e.1]) (e.2.branch v (here ++ [e.1]) e.1).steps)
    (hordered : ∀ e ∈ entries,
      (fileNames (e.2.branch v (here ++ [e.1]) e.1).steps).Pairwise Precedes) :
    (fileNames (assemble here (Node.branches v here entries))).Pairwise Precedes := by
  refine pairwise_precedes_assemble ?_ (fun b hb => ?_) fun b hb => ?_
  · rw [Node.map_fst_branches]
    exact hdistinct
  · obtain ⟨e, he, rfl⟩ := Node.mem_branches.mp hb
    exact hbelow e he
  · obtain ⟨e, he, rfl⟩ := Node.mem_branches.mp hb
    exact hordered e he

/-- Files below an entry are met in order. -/
theorem Node.pairwise_precedes_branch (v : View) (here : List String) (name : String) {n : Node}
    (h : n.IsDistinct) : (fileNames (n.branch v here name).steps).Pairwise Precedes := by
  refine (Node.steps_branch_induction (P := fun here _ _ steps =>
    MeetsBelow here steps ∧ (fileNames steps).Pairwise Precedes) ?_ ?_ here name n h).2
  · exact fun here _ _ _ => ⟨⟨by simp [fileNames], List.nodup_nil⟩, List.Pairwise.nil⟩
  · intro here _ entries _ hdistinct hboth
    have hbelow := fun e he => (hboth e he).1
    exact ⟨meetsBelow_branches hdistinct hbelow,
      pairwise_precedes_branches hdistinct hbelow fun e he => (hboth e he).2⟩

/-- Files below the entries of a directory are met in order. -/
theorem pairwise_precedes_walkEntries (v : View) {entries : Entries}
    (h : (Node.directory entries).IsDistinct) :
    (fileNames (walkEntries v entries)).Pairwise Precedes := by
  rw [Node.IsDistinct, Node.areDistinct_iff] at h
  exact pairwise_precedes_branches h.1 (fun e he => Node.meetsBelow_branch v _ _ (h.2 e he))
    fun e he => Node.pairwise_precedes_branch v _ _ (h.2 e he)

namespace FileSystem

/-- What a walk knows below a directory, with a predicate on joined names in place of rules. -/
def viewBy (fs : FileSystem) (start : List String) (ignored : String → Bool → Bool) : View where
  linksToDirectory := (fs.view start ⟨[], []⟩).linksToDirectory
  ignored names isDirectory := ignored (Path.joinNames names) isDirectory

/-- A path that can be listed leads to the directory. -/
theorem node_of_list {fs : FileSystem} {p : Path} {start : List String} {entries : Entries}
    (h : fs.list p = .ok (start, entries)) : fs.node p = .ok (.directory entries) := by
  rw [list] at h
  split at h
  · rename_i hlocate
    cases h
    rw [node, hlocate]
  all_goals cases h

/-- The files that a walk meets stand in the tree, at their names below the start. -/
theorem at?_of_mem_walk {fs : FileSystem} (hfs : fs.root.IsDistinct) {root : Path} {o : WalkOptions}
    {steps : List Step} (hsteps : (fs.walk root o).steps = .ok steps) {names : List String}
    {content : List UInt8} (h : Step.file names content ∈ steps) :
    ∃ n, fs.node root = .ok n ∧ n.at? names = some (.file content) := by
  rcases walk_cases hsteps with ⟨bytes, hnode, rfl⟩ | ⟨start, entries, filter, hlist, rfl⟩
  · cases List.mem_singleton.mp h
    exact ⟨_, hnode, rfl⟩
  · have hstart : (Node.directory entries).IsDistinct := hfs.at? (FileSystem.at?_of_list hlist)
    exact ⟨_, node_of_list hlist, ((mem_walkEntries_iff _ hstart).mp h).1⟩

/-- The lines of the rules that a walk heeds. -/
def ruleLines (fs : FileSystem) (root : Path) (o : WalkOptions) : List String :=
  (if o.heedRuleFiles then fs.ruleFiles root else []).flatMap (·.2) ++ o.exclude

/-- A walk from a directory goes through its entries with the rules that it heeds. -/
theorem steps_walk_of_list {fs : FileSystem} {root : Path} {start : List String} {entries : Entries}
    (hroot : fs.list root = .ok (start, entries)) {o : WalkOptions} {filter : Ignore.Filter}
    (hfilter : Ignore.Filter.ofLines (fs.ruleLines root o) = .ok filter) :
    (fs.walk root o).steps = .ok (walkEntries (fs.view start filter) entries) := by
  rw [ruleLines] at hfilter
  simp only [walk, node_of_list hroot, hfilter, hroot]
  rfl

/-- Whatever is ignored, a walk from a directory meets exactly the files that stand below it and are
reached through directories that are not left out, each file once, and in order. With what the rules
ignore this is the walk that heeds them. -/
theorem walk_meets_admissible {fs : FileSystem} (hfs : fs.root.IsDistinct) {root : Path}
    {start : List String} {entries : Entries} (hroot : fs.list root = .ok (start, entries))
    (ignored : String → Bool → Bool) {steps : List Step}
    (hsteps : steps = walkEntries (fs.viewBy start ignored) entries) :
    (∀ names content, Step.file names content ∈ steps ↔
      (Node.directory entries).at? names = some (.file content) ∧
      ignored (Path.joinNames names) false = false ∧
      ∀ dir name rest, names = dir ++ name :: rest → rest ≠ [] →
        name ∉ [".git", ".hg", ".svn"] ∧
          ignored (Path.joinNames (dir ++ [name])) true = false) ∧
    (fileNames steps).Nodup ∧
    (fileNames steps).Pairwise Precedes ∧
    ∀ o filter, Ignore.Filter.ofLines (fs.ruleLines root o) = .ok filter →
      filter.ignores = ignored → (fs.walk root o).steps = .ok steps := by
  have hstart : (Node.directory entries).IsDistinct := hfs.at? (FileSystem.at?_of_list hroot)
  subst hsteps
  refine ⟨fun names content => ?_, (meetsBelow_walkEntries _ hstart).distinct,
    pairwise_precedes_walkEntries _ hstart, ?_⟩
  · rw [mem_walkEntries_iff _ hstart]
    refine and_congr_right fun _ => ?_
    constructor
    · intro h
      refine ⟨h.kept, fun dir name rest hnames hrest => ?_⟩
      simpa [View.leavesOut, viewBy, metadataNames] using h.entered dir name rest hnames hrest
    · rintro ⟨hkept, hway⟩
      refine ⟨fun dir name rest hnames hrest => ?_, hkept⟩
      simpa [View.leavesOut, viewBy, metadataNames] using hway dir name rest hnames hrest
  · rintro o filter hfilter rfl
    exact steps_walk_of_list hroot hfilter

/-- A file beside a directory of a smaller name, the data of version control further down, a link to
the tree itself, and a directory to ignore. -/
def mixedEntries : Entries :=
  [("z.c", .file [1]),
   ("a", .directory [("x.c", .file [2]), (".git", .directory [("y.c", .file [3])])]),
   ("loop", .link Path.here), ("out", .directory [("w.c", .file [4])])]

/-- The walk comes to the file in the directory `a`, but not to what is below version control, a
link or the ignored directory `out`. -/
theorem mixedEntries_meets_admissible :
    ∃ steps, steps = walkEntries (FileSystem.viewBy ⟨.directory mixedEntries, []⟩ []
        fun path isDirectory => path == "out" && isDirectory) mixedEntries ∧
      Step.file ["a", "x.c"] [2] ∈ steps ∧ Step.file ["a", ".git", "y.c"] [3] ∉ steps ∧
      Step.file ["loop", "z.c"] [1] ∉ steps ∧ Step.file ["out", "w.c"] [4] ∉ steps ∧
      (fileNames steps).Nodup ∧ (fileNames steps).Pairwise Precedes := by
  have hdistinct : (Node.directory mixedEntries).IsDistinct := by
    simp [mixedEntries, Node.IsDistinct, Node.AreDistinct]
  have hlist : FileSystem.list ⟨.directory mixedEntries, []⟩ Path.here =
      .ok ([], mixedEntries) := by cbv
  obtain ⟨hmeets, hnodup, hordered, _⟩ := walk_meets_admissible hdistinct hlist
    (fun path isDirectory => path == "out" && isDirectory) rfl
  refine ⟨_, rfl, (hmeets _ _).mpr ⟨rfl, by decide, fun dir name rest hnames hrest => ?_⟩,
    fun h => ?_, fun h => ?_, fun h => ?_, hnodup, hordered⟩
  · rcases dir with _ | ⟨_, _ | ⟨_, dir⟩⟩
    · obtain ⟨rfl, _⟩ := List.cons.inj hnames
      decide
    · obtain ⟨_, _, hnone⟩ : _ ∧ _ ∧ rest = [] := by simpa using hnames
      exact absurd hnone hrest
    · simp at hnames
  · exact absurd (((hmeets _ _).mp h).2.2 ["a"] ".git" ["y.c"] rfl (by decide)).1 (by decide)
  · have hat := ((hmeets _ _).mp h).1
    cases hat
  · exact absurd (((hmeets _ _).mp h).2.2 [] "out" ["w.c"] rfl (by decide)).2 (by decide)

end FileSystem

end LabelTally.FileTree
