import LabelTally.Proofs.Check.Verdict

/-!
# The order of files

The files of a collection can be taken in any order: a run stops after the same stage and has the
same findings, up to the order of the findings and of the places that each of them concerns. The
comments are the same but for their indices, and so are the groups, up to order.
-/

namespace LabelTally

/-- Items with their places in a list, of which only the items are used. -/
theorem flatMap_zipIdx {α β : Type} (xs : List α) (f : α → List β) :
    (xs.zipIdx.flatMap fun p => f p.1) = xs.flatMap f := by
  rw [← List.flatMap_map, List.zipIdx_map_fst]

theorem filterMap_zipIdx {α β : Type} (xs : List α) (f : α → Option β) :
    (xs.zipIdx.filterMap fun p => f p.1) = xs.filterMap f := by
  conv_rhs => rw [← List.zipIdx_map_fst 0 xs, List.filterMap_map]
  rfl

/-- A comment without its place in the collection. -/
def Mention.unplaced (m : Mention) : Mention := { m with fileIndex := 0, matchIndex := 0 }

/-- An invalid match without its place in the collection. -/
def InvalidMention.unplaced (m : InvalidMention) : InvalidMention :=
  { m with fileIndex := 0, matchIndex := 0 }

namespace Collection

/-- The comments without their places come file by file. -/
theorem map_unplaced_mentions (c : Collection) :
    c.mentions.map Mention.unplaced =
      c.files.flatMap fun f => f.found.filterMap fun m =>
        m.args?.map fun a => ⟨f.path, 0, 0, m, a⟩ := by
  rw [mentions, List.map_flatMap]
  refine (List.flatMap_congr fun p _ => ?_).trans (flatMap_zipIdx c.files _)
  rw [List.map_filterMap]
  refine (List.filterMap_congr fun q _ => ?_).trans (filterMap_zipIdx p.1.found _)
  rw [Option.map_map]
  rfl

/-- The invalid matches without their places come file by file. -/
theorem map_unplaced_invalid (c : Collection) :
    c.invalid.map InvalidMention.unplaced =
      c.files.flatMap fun f => f.found.filterMap fun m =>
        if m.isValid then none else some ⟨f.path, 0, 0, m⟩ := by
  rw [invalid, List.map_flatMap]
  refine (List.flatMap_congr fun p _ => ?_).trans (flatMap_zipIdx c.files _)
  rw [List.map_filterMap]
  refine (List.filterMap_congr fun q _ => ?_).trans (filterMap_zipIdx p.1.found _)
  dsimp only
  split <;> rfl

section SameFiles

variable {c c' : Collection} (h : c.files.Perm c'.files)
include h

/-- Comments of the same files are the same up to order. -/
theorem perm_mentions :
    (c.mentions.map Mention.unplaced).Perm (c'.mentions.map Mention.unplaced) := by
  rw [map_unplaced_mentions, map_unplaced_mentions]
  exact h.flatMap_right _

/-- Invalid matches of the same files are the same up to order. -/
theorem perm_invalid :
    (c.invalid.map InvalidMention.unplaced).Perm (c'.invalid.map InvalidMention.unplaced) := by
  rw [map_unplaced_invalid, map_unplaced_invalid]
  exact h.flatMap_right _

/-- The same files have as many matches. -/
theorem total_eq_of_perm : c.total = c'.total := (h.flatMap_right _).length_eq

end SameFiles

end Collection

/-- The groups are those of the labels in use. -/
theorem Grouped.eq_map {ms : List Mention} {gs : List (String × List Mention)} (h : Grouped ms gs) :
    gs = (ms.map Mention.label).eraseDups.map fun label => (label, withLabel label ms) := by
  rw [← h.keys, List.map_map]
  conv_lhs => rw [← List.map_id gs]
  refine List.map_congr_left fun g hg => ?_
  exact Prod.ext rfl (h.members g hg)

namespace Check

/-- A finding without the order of the places it concerns. -/
structure UnorderedFinding where
  /-- Its kind. -/
  code : Code
  /-- What is wrong. -/
  message : String
  /-- Where it is wrong. -/
  locations : Multiset Location
  /-- Further remarks. -/
  notes : List String
  /-- What to write instead. -/
  suggestion : Option String

/-- The finding without the order of its places. -/
def Finding.unordered (f : Finding) : UnorderedFinding :=
  ⟨f.code, f.message, f.locations, f.notes, f.suggestion⟩

/-- The findings are the same up to their order and that of their places. -/
def SameFindings (found found' : List Finding) : Prop :=
  (found.map Finding.unordered).Perm (found'.map Finding.unordered)

/-- The reports are the same up to the order of findings and of their places. -/
structure SameReport (r r' : Report) : Prop where
  /-- They stop after the same stage. -/
  stoppedAfter : r.stoppedAfter = r'.stoppedAfter
  /-- They count the same number of files. -/
  files : r.files = r'.files
  /-- They count the same number of annotations. -/
  annotations : r.annotations = r'.annotations
  /-- They have the same findings up to order. -/
  findings : SameFindings r.findings r'.findings

theorem SameFindings.of_perm {found found' : List Finding} (h : found.Perm found') :
    SameFindings found found' := h.map _

theorem SameFindings.eq_nil_iff {found found' : List Finding} (h : SameFindings found found') :
    found = [] ↔ found' = [] := by
  rw [← List.length_eq_zero_iff, ← List.length_eq_zero_iff]
  have hlength := h.length_eq
  simp only [List.length_map] at hlength
  rw [hlength]

/-- The declared counts stand in increasing order. -/
theorem pairwise_declaredCounts (default : Int) (group : List Mention) :
    (declaredCounts default group).Pairwise (· < ·) := by
  have hsorted : (declaredCounts default group).Pairwise fun a b => decide (a ≤ b) = true := by
    refine List.pairwise_mergeSort (fun a b c hab hbc => ?_) (fun a b => ?_) _
    · exact decide_eq_true ((of_decide_eq_true hab).trans (of_decide_eq_true hbc))
    · simpa using Int.le_total a b
  have hnodup : (declaredCounts default group).Pairwise (· ≠ ·) :=
    nodup_declaredCounts default group
  exact (hsorted.and hnodup).imp fun hab => lt_of_le_of_ne (of_decide_eq_true hab.1) hab.2

/-- Comments that are the same up to order and places declare the same counts. -/
theorem declaredCounts_eq_of_perm {default : Int} {group group' : List Mention}
    (h : (group.map Mention.unplaced).Perm (group'.map Mention.unplaced)) :
    declaredCounts default group = declaredCounts default group' := by
  have hcounts : (group.map fun m => m.args.countOr default).Perm
      (group'.map fun m => m.args.countOr default) := by
    have hmap := h.map fun m => m.args.countOr default
    rwa [List.map_map, List.map_map] at hmap
  have hmem : ∀ n, n ∈ declaredCounts default group ↔ n ∈ declaredCounts default group' := by
    intro n
    simp only [declaredCounts, List.mem_mergeSort, List.mem_eraseDups]
    exact hcounts.mem_iff
  refine List.Perm.eq_of_pairwise (fun a b _ _ hab hba => absurd hab (lt_asymm hba))
    (pairwise_declaredCounts default group) (pairwise_declaredCounts default group') ?_
  exact (List.perm_ext_iff_of_nodup (nodup_declaredCounts default group)
    (nodup_declaredCounts default group')).mpr hmem

/-- The finding about a group is the same up to order if the group is. -/
theorem countFinding_unordered_eq {default : Int} {group group' : List Mention}
    (h : (group.map Mention.unplaced).Perm (group'.map Mention.unplaced)) (label : String) :
    (countFinding default label group).map Finding.unordered =
      (countFinding default label group').map Finding.unordered := by
  have hlength : group.length = group'.length := by simpa using h.length_eq
  have hlocations : ((group.map fun m => Location.mk m.path m.found.span : List Location) :
      Multiset Location) =
        (group'.map fun m => Location.mk m.path m.found.span : List Location) := by
    have hmap := h.map fun m => Location.mk m.path m.found.span
    rw [List.map_map, List.map_map] at hmap
    exact Multiset.coe_eq_coe.mpr hmap
  unfold countFinding
  rw [declaredCounts_eq_of_perm h, hlength]
  match declaredCounts default group' with
  | [] => rfl
  | [expected] =>
    dsimp only
    split
    · rfl
    · simp only [Option.map_some, Finding.unordered, hlocations]
  | a :: b :: rest => simp only [Option.map_some, Finding.unordered, hlocations]

/-- The findings of the second stage, label by label. -/
theorem countFindings_eq (default : Int) (c : Collection) :
    countFindings default c = (c.mentions.map Mention.label).eraseDups.filterMap fun label =>
      countFinding default label (withLabel label c.mentions) := by
  rw [countFindings, c.groups_grouped.eq_map, List.filterMap_map]
  rfl

variable {c c' : Collection}

/-- How a run ends is how it is run. -/
theorem RunsTo.run_eq {o : Options} {r : Report} (h : RunsTo o c r) : run o c = r := by
  have hskip : ∀ {on : Bool} {found : List Finding}, (on = true → found = []) →
      ¬(!(if on then found else []).isEmpty) = true := fun hnone hreports =>
    (stage_reports_iff.mp hreports).2 (hnone (stage_reports_iff.mp hreports).1)
  cases h with
  | invalid hon hfound => rw [run, if_pos (stage_reports_iff.mpr ⟨hon, hfound⟩), if_pos hon]
  | counts hvalid hon hfound =>
    rw [run, if_neg (hskip hvalid), if_pos (stage_reports_iff.mpr ⟨hon, hfound⟩), if_pos hon]
  | style hvalid hagree => rw [run, if_neg (hskip hvalid), if_neg (hskip hagree)]

section SameFiles

variable (h : c.files.Perm c'.files)
include h

/-- The findings of the first stage are the same up to order. -/
theorem sameFindings_invalid : SameFindings (invalidFindings c) (invalidFindings c') := by
  have hmap := (Collection.perm_invalid h).map invalidFinding
  rw [List.map_map, List.map_map] at hmap
  exact .of_perm hmap

/-- Labels are in use in the same files, whatever their order. -/
theorem perm_labels :
    (c.mentions.map Mention.label).eraseDups.Perm (c'.mentions.map Mention.label).eraseDups := by
  have hlabels := (Collection.perm_mentions h).map Mention.label
  rw [List.map_map, List.map_map] at hlabels
  refine (List.perm_ext_iff_of_nodup (nodup_eraseDups _) (nodup_eraseDups _)).mpr fun label => ?_
  rw [List.mem_eraseDups, List.mem_eraseDups]
  exact hlabels.mem_iff

/-- The comments with a label are the same up to order. -/
theorem perm_withLabel (label : String) :
    ((withLabel label c.mentions).map Mention.unplaced).Perm
      ((withLabel label c'.mentions).map Mention.unplaced) := by
  have hfilter : ∀ ms : List Mention, (withLabel label ms).map Mention.unplaced =
      withLabel label (ms.map Mention.unplaced) := fun ms => by
    rw [withLabel, withLabel, List.filter_map]
    rfl
  rw [hfilter, hfilter]
  exact (Collection.perm_mentions h).filter _

/-- The findings of the second stage are the same up to order. -/
theorem sameFindings_counts (default : Int) :
    SameFindings (countFindings default c) (countFindings default c') := by
  have hgroup : ∀ label, (countFinding default label (withLabel label c.mentions)).map
      Finding.unordered = (countFinding default label (withLabel label c'.mentions)).map
        Finding.unordered := fun label => countFinding_unordered_eq (perm_withLabel h label) label
  rw [SameFindings, countFindings_eq, countFindings_eq, List.map_filterMap, List.map_filterMap]
  simp only [hgroup]
  exact (perm_labels h).filterMap _

/-- What a rule finds at each comment alone, whatever its place, is the same up to order. -/
theorem perm_flatMap_mentions {α : Type} (f : Mention → List α) (hf : ∀ m, f m.unplaced = f m) :
    (c.mentions.flatMap f).Perm (c'.mentions.flatMap f) := by
  have hmap := (Collection.perm_mentions h).flatMap_right f
  simpa only [List.flatMap_map, hf] using hmap

/-- The findings of the last stage are the same up to order. -/
theorem sameFindings_style (o : Options) :
    SameFindings (styleFindings o c) (styleFindings o c') := by
  refine .of_perm (.append (.append ?_ ?_) ?_)
  · cases o.style with
    | none => exact .refl _
    | some s =>
      simp only [List.filterMap_eq_flatMap_toList]
      exact perm_flatMap_mentions h _ fun m => rfl
  · split
    · exact perm_flatMap_mentions h _ fun m => rfl
    · exact .refl _
  · cases o.labelPattern with
    | none => exact .refl _
    | some p =>
      simp only [List.filterMap_eq_flatMap_toList]
      exact perm_flatMap_mentions h _ fun m => rfl

/-- A run has the same report up to order. -/
theorem sameReport_run (o : Options) : SameReport (run o c) (run o c') := by
  have hinvalid := sameFindings_invalid h
  have hcounts := sameFindings_counts h o.defaultCount
  have hfiles := h.length_eq
  have htotal := Collection.total_eq_of_perm h
  have hruns := run_runsTo o c
  generalize run o c = report at hruns
  cases hruns with
  | invalid hon hfound =>
    have hfound' := mt hinvalid.eq_nil_iff.mpr hfound
    rw [(RunsTo.invalid hon hfound').run_eq]
    exact ⟨rfl, hfiles, htotal, hinvalid⟩
  | counts hvalid hon hfound =>
    have hvalid' := fun hon => hinvalid.eq_nil_iff.mp (hvalid hon)
    have hfound' := mt hcounts.eq_nil_iff.mpr hfound
    rw [(RunsTo.counts hvalid' hon hfound').run_eq]
    exact ⟨rfl, hfiles, htotal, hcounts⟩
  | style hvalid hagree =>
    have hvalid' := fun hon => hinvalid.eq_nil_iff.mp (hvalid hon)
    have hagree' := fun hon => hcounts.eq_nil_iff.mp (hagree hon)
    rw [(RunsTo.style hvalid' hagree').run_eq]
    exact ⟨rfl, hfiles, htotal, sameFindings_style h o⟩

/-- A run breaks off in both orders or in none. -/
theorem breaksOff_eq_of_perm (o : Options) : breaksOff o c = breaksOff o c' := by
  have hcrossed : ∀ p : LabelPattern, (c.mentions.any fun m => p.isCrossedBy m.label) =
      c'.mentions.any fun m => p.isCrossedBy m.label := fun p => by
    have hmap := (Collection.perm_mentions h).any_eq (f := fun m => p.isCrossedBy m.label)
    rwa [List.any_map, List.any_map] at hmap
  unfold breaksOff
  rw [(sameReport_run h o).stoppedAfter]
  cases o.labelPattern with
  | none => rfl
  | some p => simp only [hcrossed]

end SameFiles

/-- Files can be taken in any order: a run stops after the same stage with the same numbers of files
and annotations, its findings are the same up to order, each with the same places up to order, and
it breaks off in both orders or in none. -/
theorem run_file_order (o : Options) {files files' : List ScannedFile} (h : files.Perm files') :
    (run o ⟨files⟩).stoppedAfter = (run o ⟨files'⟩).stoppedAfter ∧
    (run o ⟨files⟩).annotations = (run o ⟨files'⟩).annotations ∧
    (run o ⟨files⟩).files = (run o ⟨files'⟩).files ∧
    ((run o ⟨files⟩).findings.map Finding.unordered).Perm
      ((run o ⟨files'⟩).findings.map Finding.unordered) ∧
    breaksOff o ⟨files⟩ = breaksOff o ⟨files'⟩ := by
  have hfiles : (Collection.mk files).files.Perm (Collection.mk files').files := h
  have hreport := sameReport_run hfiles o
  exact ⟨hreport.stoppedAfter, hreport.annotations, hreport.files, hreport.findings,
    breaksOff_eq_of_perm hfiles o⟩

/-- A file with one annotation, which declares no count. -/
def undeclaredFile : ScannedFile :=
  ⟨⟨.workDir, ["a.c"]⟩, [⟨0, .valid ⟨⟨"x", "x", ⟨9, 10⟩⟩, none, 3⟩, 8⟩], none⟩

/-- A file with one annotation of the same label, which declares three. -/
def declaredFile : ScannedFile :=
  ⟨⟨.workDir, ["b.c"]⟩, [⟨4, .valid ⟨⟨"x", "x", ⟨13, 14⟩⟩, some ⟨3, "3", ⟨16, 17⟩⟩, 6⟩, 8⟩], none⟩

/-- The finding about a label in two files names the places in the order of the files, and is the
same in both orders apart from that. -/
theorem run_file_order_disagreement :
    [undeclaredFile, declaredFile].Perm [declaredFile, undeclaredFile] ∧
    (run {} ⟨[undeclaredFile, declaredFile]⟩).findings ≠
      (run {} ⟨[declaredFile, undeclaredFile]⟩).findings ∧
    (run {} ⟨[undeclaredFile, declaredFile]⟩).stoppedAfter =
      (run {} ⟨[declaredFile, undeclaredFile]⟩).stoppedAfter ∧
    ((run {} ⟨[undeclaredFile, declaredFile]⟩).findings.map Finding.unordered).Perm
      ((run {} ⟨[declaredFile, undeclaredFile]⟩).findings.map Finding.unordered) := by
  have hswap : [undeclaredFile, declaredFile].Perm [declaredFile, undeclaredFile] := .swap _ _ _
  obtain ⟨hstopped, _, _, hfindings, _⟩ := run_file_order {} hswap
  refine ⟨hswap, fun heq => ?_, hstopped, hfindings⟩
  have hplaces := congrArg (fun found => found.map fun f => f.locations.map (·.span.start)) heq
  have hfirst : ((run {} ⟨[undeclaredFile, declaredFile]⟩).findings.map fun f =>
      f.locations.map (·.span.start)) = [[0, 4]] := by cbv
  have hsecond : ((run {} ⟨[declaredFile, undeclaredFile]⟩).findings.map fun f =>
      f.locations.map (·.span.start)) = [[4, 0]] := by cbv
  rw [hfirst, hsecond] at hplaces
  cases hplaces

end Check

end LabelTally
