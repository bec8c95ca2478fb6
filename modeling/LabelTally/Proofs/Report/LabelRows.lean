import LabelTally.Proofs.Check.CountBlame
import LabelTally.Proofs.Report.Layout
import LabelTally.Report.LabelTable

/-!
# The rows of the label table

There is one row for each label in use, in the order of the labels. A row sums up all comments with
its label, and it shows a single declared count that is also the number of comments exactly if the
rule on counts has nothing to say about them. The rule sorts the different counts, and the table
tallies them first, so both have to come to the same counts.
-/

namespace LabelTally

open Check (declaredFile otherLabelsFile undeclaredFile)
open Comment (Match)

/-- The match is a comment with the label. -/
def Comment.Match.carries (label : String) (m : Match) : Bool :=
  m.args?.any fun a => a.label.value == label

theorem Comment.Match.carries_iff {label : String} {m : Match} :
    m.carries label = true ↔ ∃ a, m.args? = some a ∧ a.label.value = label := by
  cases h : m.args? <;> simp [carries, h]

namespace Collection

/-! ## The comments with a label -/

/-- Some comment with a label is in a file exactly if one of its matches is such a comment. -/
theorem exists_mention_iff {c : Collection} {label : String} {i : Nat} :
    (∃ m ∈ c.mentions, m.label = label ∧ m.fileIndex = i) ↔
      ∃ f, c.files[i]? = some f ∧ f.found.any (·.carries label) = true := by
  simp only [List.any_eq_true, Match.carries_iff, mem_mentions]
  constructor
  · rintro ⟨m, ⟨f, hf, -, hm, hargs⟩, hlabel, rfl⟩
    exact ⟨f, hf, m.found, List.mem_of_getElem? hm, m.args, hargs, hlabel⟩
  · rintro ⟨f, hf, m, hm, args, hargs, hlabel⟩
    obtain ⟨j, hj⟩ := List.mem_iff_getElem?.mp hm
    exact ⟨⟨f.path, i, j, m, args⟩, ⟨f, hf, rfl, hj, hargs⟩, hlabel, rfl⟩

/-- A label is in use exactly if some file has a comment with it. -/
theorem exists_label_iff {c : Collection} {label : String} :
    (∃ m ∈ c.mentions, m.label = label) ↔ ∃ f ∈ c.files, f.found.any (·.carries label) = true := by
  constructor
  · rintro ⟨m, hm, hlabel⟩
    obtain ⟨f, hf, hany⟩ := exists_mention_iff.mp ⟨m, hm, hlabel, rfl⟩
    exact ⟨f, List.mem_of_getElem? hf, hany⟩
  · rintro ⟨f, hf, hany⟩
    obtain ⟨i, hi⟩ := List.mem_iff_getElem?.mp hf
    obtain ⟨m, hm, hlabel, -⟩ := exists_mention_iff.mpr ⟨f, hi, hany⟩
    exact ⟨m, hm, hlabel⟩

/-- The comments with a label are counted match by match. -/
theorem length_withLabel_mentions (c : Collection) (label : String) :
    (withLabel label c.mentions).length = (c.files.flatMap (·.found)).countP (·.carries label) := by
  have hplaces := congrArg List.length (Check.map_withLabel_mentions c label)
  rw [List.length_map] at hplaces
  rw [hplaces, Check.labelPlaces, List.length_flatMap, List.countP_flatMap]
  simp only [List.length_map, ← List.countP_eq_length_filter]
  rfl

/-- The files of comments with a label are counted file by file. -/
theorem length_fileIndices (c : Collection) (label : String) :
    ((withLabel label c.mentions).map Mention.fileIndex).eraseDups.length =
      c.files.countP fun f => f.found.any (·.carries label) := by
  let holders := c.files.zipIdx.filter fun p => p.1.found.any (·.carries label)
  have hnodup : (holders.map Prod.snd).Nodup := by
    refine List.Nodup.sublist (List.filter_sublist.map Prod.snd) ?_
    rw [List.zipIdx_map_snd]
    exact List.nodup_range'
  have hperm : ((withLabel label c.mentions).map Mention.fileIndex).eraseDups.Perm
      (holders.map Prod.snd) := by
    refine (List.perm_ext_iff_of_nodup (nodup_eraseDups _) hnodup).mpr fun i => ?_
    have hholders : i ∈ holders.map Prod.snd ↔
        ∃ f, c.files[i]? = some f ∧ f.found.any (·.carries label) = true := by
      simp [holders, List.mem_zipIdx_iff_getElem?]
    rw [hholders, ← exists_mention_iff, List.mem_eraseDups, List.mem_map]
    simp only [mem_withLabel, and_assoc]
  rw [hperm.length_eq, List.length_map, ← List.countP_eq_length_filter]
  conv_rhs => rw [← List.zipIdx_map_fst 0 c.files, List.countP_map]
  rfl

/-- The group of a label in use holds the comments with it. -/
theorem group_eq_withLabel {c : Collection} {label : String}
    (h : ∃ m ∈ c.mentions, m.label = label) : c.group label = withLabel label c.mentions := by
  have hlabel : label ∈ (c.mentions.map Mention.label).eraseDups :=
    List.mem_eraseDups.mpr (List.mem_map.mpr h)
  rw [group, c.groups_grouped.eq_map, List.lookup_graph _ hlabel, Option.getD_some]

end Collection

/-! ## The declared counts -/

namespace Report

/-- Counting a number once more keeps the numbers of a tally, and a new number comes last. -/
theorem map_fst_addToTally (t : List (Int × Nat)) (n : Int) :
    (addToTally t n).map (·.1) =
      if n ∈ t.map (·.1) then t.map (·.1) else t.map (·.1) ++ [n] := by
  induction t with
  | nil => rfl
  | cons entry rest ih =>
    by_cases hn : entry.1 = n
    · simp [addToTally, hn]
    · have hn' : n ≠ entry.1 := Ne.symm hn
      simp only [addToTally, beq_iff_eq, hn, if_false, List.map_cons, ih, List.mem_cons, hn',
        false_or]
      split <;> rfl

/-- A tally of numbers has each of them once, in the order in which they are met. -/
theorem map_fst_tally (ns : List Int) : (tally ns).map (·.1) = ns.eraseDups := by
  induction ns using List.reverseRecOn with
  | nil => rfl
  | append_singleton before n ih =>
    rw [tally, List.foldl_append, List.foldl_cons, List.foldl_nil, ← tally, map_fst_addToTally, ih,
      eraseDups_concat]
    simp only [List.mem_eraseDups]

/-- The table and the rule come to the same counts. -/
theorem declared_ofGroup (default : Int) (label : String) (group : List Mention) :
    (LabelRow.ofGroup default label group).declared = Check.declaredCounts default group := by
  rw [Check.declaredCounts, ← map_fst_tally]
  rfl

/-- A number is written as a natural number is exactly if it is that number. -/
theorem toString_eq_natCast_iff {n : Int} {k : Nat} : toString n = toString k ↔ n = k := by
  cases n with
  | ofNat m => exact Nat.repr_inj.trans Int.ofNat_inj.symm
  | negSucc m =>
    refine iff_of_false (fun h => ?_) (by omega)
    have hsign : '-' ∈ (toString (Int.negSucc m)).toList := by
      simp [toString, Int.repr]
    rw [h] at hsign
    exact absurd (isDigit_of_mem_toString hsign) (by decide)

/-- Counts are written as a natural number is exactly if it is the only one. -/
theorem joinCounts_eq_toString_iff {counts : List Int} {k : Nat} :
    Check.joinCounts counts = toString k ↔ counts = [(k : Int)] := by
  match counts with
  | [] => exact iff_of_false (fun h => Nat.repr_ne_empty h.symm) (by simp)
  | [n] =>
    rw [List.singleton_inj, ← toString_eq_natCast_iff]
    rfl
  | n :: n' :: rest =>
    refine iff_of_false (fun h => ?_) (by simp)
    have hcomma : ',' ∈ (Check.joinCounts (n :: n' :: rest)).toList := by
      simp [Check.joinCounts, String.toList_intercalate]
    rw [h] at hcomma
    exact absurd (isDigit_of_mem_toString hcomma) (by decide)

/-- The rule has nothing to say about comments exactly if they declare one count, their number. -/
theorem countFinding_eq_none_iff_declared {default : Int} {label : String} {group : List Mention}
    (hne : group ≠ []) : Check.countFinding default label group = none ↔
      Check.declaredCounts default group = [(group.length : Int)] := by
  obtain ⟨m, hm⟩ := List.exists_mem_of_ne_nil group hne
  have hmem : m.args.countOr default ∈ Check.declaredCounts default group :=
    Check.mem_declaredCounts.mpr ⟨m, hm, rfl⟩
  rw [Check.countFinding]
  generalize Check.declaredCounts default group = counts at hmem
  cases counts with
  | nil => cases hmem
  | cons expected others =>
    cases others with
    | nil => simp [eq_comm]
    | cons other rest => simp

/-- What the rule says about a disagreement lists the declared counts. -/
theorem notes_of_countFinding {default : Int} {label : String} {group : List Mention}
    {f : Check.Finding} (h : Check.countFinding default label group = some f)
    (hcode : f.code = .countDisagreement) : f.notes =
      ["declared counts: " ++ Check.joinCounts (Check.declaredCounts default group)] := by
  rw [Check.countFinding] at h
  generalize Check.declaredCounts default group = counts at h ⊢
  cases counts with
  | nil => cases h
  | cons expected others =>
    cases others with
    | nil =>
      dsimp only at h
      split at h <;> cases h
      cases hcode
    | cons other rest =>
      cases h
      rfl

/-! ## The rows -/

/-- Groups in the order of their labels. Those with the same label are told apart by `tie`. -/
def byLabelThen (tie : List Mention → List Mention → Bool) (a b : String × List Mention) : Bool :=
  if a.1 = b.1 then tie a.2 b.2 else decide (a.1 ≤ b.1)

/-- Since no two groups have the same label, it does not matter how they would be told apart. -/
theorem mergeSort_byLabelThen (c : Collection) {tie : List Mention → List Mention → Bool}
    (htie : ∀ ms, tie ms ms = true) :
    c.groups.mergeSort (byLabelThen tie) = c.groups.mergeSort fun a b => decide (a.1 ≤ b.1) := by
  have hsame : ∀ a ∈ c.groups, ∀ b ∈ c.groups, byLabelThen tie a b = decide (a.1 ≤ b.1) := by
    intro a ha b hb
    by_cases hlabel : a.1 = b.1
    · have hgroup : a.2 = b.2 := by
        rw [c.groups_grouped.members a ha, c.groups_grouped.members b hb, hlabel]
      simp [byLabelThen, hlabel, hgroup, htie]
    · rw [byLabelThen, if_neg hlabel]
  simpa using List.map_mergeSort (f := id) hsame

/-- The labels of the rows are the different labels in use, sorted. -/
theorem map_label_labelRows (default : Int) (c : Collection) :
    (labelRows default c).map (·.label) =
      (c.mentions.map Mention.label).eraseDups.mergeSort fun a b => decide (a ≤ b) := by
  rw [← c.groups_grouped.keys, labelRows, List.map_map]
  exact List.map_mergeSort fun a _ b _ => rfl

/-- The rows stand in the order of their labels, and no label has two. -/
theorem pairwise_labelRows (default : Int) (c : Collection) :
    ((labelRows default c).map (·.label)).Pairwise (· < ·) := by
  rw [map_label_labelRows]
  have hnodup := nodup_eraseDups (c.mentions.map Mention.label)
  generalize (c.mentions.map Mention.label).eraseDups = labels at hnodup ⊢
  have hsorted : (labels.mergeSort fun a b => decide (a ≤ b)).Pairwise
      fun a b => decide (a ≤ b) = true := by
    refine List.pairwise_mergeSort (fun a b c hab hbc => ?_) (fun a b => ?_) _
    · exact decide_eq_true (String.le_trans (of_decide_eq_true hab) (of_decide_eq_true hbc))
    · simpa using String.le_total a b
  refine (hsorted.and ((List.mergeSort_perm _ _).nodup_iff.mpr hnodup)).imp fun hab => ?_
  exact lt_of_le_of_ne (of_decide_eq_true hab.1) hab.2

/-- The row sums up the comments of its label, as the rule on counts sees them. -/
structure LabelRow.SumsUp (default : Int) (c : Collection) (r : LabelRow) : Prop where
  /-- The comments with the label are counted in all files. -/
  found : r.found = (c.files.flatMap (·.found)).countP (·.carries r.label)
  /-- The files with such a comment are counted. -/
  files : r.files = c.files.countP fun f => f.found.any (·.carries r.label)
  /-- What is shown as declared is the number of comments exactly if they declare that alone. -/
  text : r.declaredText = toString r.found ↔ r.declared = [(r.found : Int)]
  /-- They declare that alone exactly if the rule has nothing to say about them. -/
  agreement : r.declared = [(r.found : Int)] ↔
    Check.countFinding default r.label (c.group r.label) = none
  /-- If the rule finds that they disagree, it lists what is shown as declared. -/
  disagreement : ∀ f, Check.countFinding default r.label (c.group r.label) = some f →
    f.code = .countDisagreement → f.notes = ["declared counts: " ++ r.declaredText]

/-- The row of a label in use. -/
theorem sumsUp_ofGroup (default : Int) {c : Collection} {label : String}
    (h : ∃ m ∈ c.mentions, m.label = label) :
    (LabelRow.ofGroup default label (withLabel label c.mentions)).SumsUp default c := by
  have hne : withLabel label c.mentions ≠ [] := by
    obtain ⟨m, hm⟩ := h
    exact List.ne_nil_of_mem (mem_withLabel.mpr hm)
  have hgroup := Collection.group_eq_withLabel h
  have hdeclared := declared_ofGroup default label (withLabel label c.mentions)
  refine ⟨c.length_withLabel_mentions label, c.length_fileIndices label, joinCounts_eq_toString_iff,
    ?_, fun f hf hcode => ?_⟩
  · show _ ↔ Check.countFinding default label (c.group label) = none
    rw [hdeclared, hgroup]
    exact (countFinding_eq_none_iff_declared hne).symm
  · rw [LabelRow.declaredText, hdeclared]
    exact notes_of_countFinding (hgroup ▸ hf) hcode

/-- The table has one row for each label that a comment in some file carries, in increasing order of
the labels. To bring them into order their comments need not be compared. Each row sums up the
comments of its label. -/
theorem labelRows_sumUp (default : Int) (c : Collection) :
    (∀ tie : List Mention → List Mention → Bool, (∀ ms, tie ms ms = true) →
      (c.groups.mergeSort (byLabelThen tie)).map (fun g => LabelRow.ofGroup default g.1 g.2) =
        labelRows default c) ∧
      ((labelRows default c).map (·.label)).Pairwise (· < ·) ∧
      (∀ label, label ∈ (labelRows default c).map (·.label) ↔
        ∃ f ∈ c.files, f.found.any (·.carries label) = true) ∧
      ∀ r ∈ labelRows default c, r.SumsUp default c := by
  refine ⟨fun tie htie => ?_, pairwise_labelRows default c, fun label => ?_, fun r hr => ?_⟩
  · rw [mergeSort_byLabelThen c htie, labelRows]
  · rw [← Collection.exists_label_iff, map_label_labelRows, List.mem_mergeSort, List.mem_eraseDups,
      List.mem_map]
  · obtain ⟨g, hg, rfl⟩ := List.mem_map.mp hr
    obtain ⟨hlabel, hmembers⟩ := Collection.mem_groups.mp (List.mem_mergeSort.mp hg)
    rw [hmembers]
    exact sumsUp_ofGroup default hlabel

/-- Comments with one label disagree across two files, and one comment is counted rightly. -/
theorem labelRows_sumUp_disagreement :
    (labelRows 2 ⟨[undeclaredFile, otherLabelsFile, declaredFile]⟩).map
      (fun r => r.cells.map String.ofList) =
      [["x", "2, 3", "2", "2"], ["y", "1", "1", "1"], ["z", "2", "1", "1"]] ∧
    (∀ r ∈ labelRows 2 ⟨[undeclaredFile, otherLabelsFile, declaredFile]⟩,
      r.SumsUp 2 ⟨[undeclaredFile, otherLabelsFile, declaredFile]⟩) ∧
    ((Collection.mk [undeclaredFile, otherLabelsFile, declaredFile]).groups.mergeSort
      (byLabelThen fun ms ms' => ms == ms')).map (fun g => LabelRow.ofGroup 2 g.1 g.2) =
        labelRows 2 ⟨[undeclaredFile, otherLabelsFile, declaredFile]⟩ := by
  obtain ⟨hties, -, -, hrows⟩ := labelRows_sumUp 2 ⟨[undeclaredFile, otherLabelsFile, declaredFile]⟩
  exact ⟨by cbv, hrows, hties _ fun ms => beq_self_eq_true ms⟩

end Report

end LabelTally
