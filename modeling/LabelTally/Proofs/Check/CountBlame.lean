import LabelTally.Proofs.Check.FileOrder

/-!
# What count findings blame

The second stage has one finding for each label with a comment that is not counted rightly, in the
order in which the labels are first met. It says whether the comments with the label disagree with
each other or only with their number, and it points at all of them, file by file.
-/

namespace LabelTally.Check

/-- Two comments with the label declare different counts. -/
def Disagree (default : Int) (c : Collection) (label : String) : Prop :=
  ∃ m ∈ c.mentions, ∃ m' ∈ c.mentions, m.label = label ∧ m'.label = label ∧
    m.args.countOr default ≠ m'.args.countOr default

/-- The places of the comments with the label, file by file. -/
def labelPlaces (c : Collection) (label : String) : List Location :=
  c.files.flatMap fun f => (f.found.filter fun m => m.args?.any fun a => a.label.value == label).map
    fun m => ⟨f.path, m.span⟩

/-- The finding blames the comments with the label for their counts. -/
structure BlamesLabel (default : Int) (c : Collection) (label : String) (f : Finding) : Prop where
  /-- It is about a disagreement exactly if two of the comments disagree. -/
  disagreement : f.code = .countDisagreement ↔ Disagree default c label
  /-- Otherwise it is about their number. -/
  mismatch : f.code = .countMismatch ↔ ¬Disagree default c label
  /-- It points at each of them once, in the order of the scan. -/
  locations : f.locations = labelPlaces c label
  /-- A disagreement lists the counts that they declare, each once, in increasing order. -/
  notes : f.code = .countDisagreement → ∃ counts : List Int,
    f.notes = ["declared counts: " ++ joinCounts counts] ∧ counts.Pairwise (· < ·) ∧
      ∀ n, n ∈ counts ↔ ∃ m ∈ c.mentions, m.label = label ∧ m.args.countOr default = n

/-- The comments with a label stand in the files where their places are. -/
theorem map_withLabel_mentions (c : Collection) (label : String) :
    ((withLabel label c.mentions).map fun m => Location.mk m.path m.found.span) =
      labelPlaces c label := by
  rw [withLabel, Collection.mentions, List.filter_flatMap, List.map_flatMap, labelPlaces]
  refine (List.flatMap_congr fun p _ => ?_).trans (flatMap_zipIdx c.files _)
  rw [List.filter_filterMap, List.map_filterMap, ← List.filterMap_eq_map', List.filterMap_filter]
  refine (List.filterMap_congr fun q _ => ?_).trans (filterMap_zipIdx p.1.found _)
  obtain ⟨m, j⟩ := q
  dsimp only
  cases m.args? with
  | none => rfl
  | some a => by_cases hlabel : a.label.value = label <;> simp [Mention.label, hlabel]

/-- The counts that comments with a label declare. -/
theorem mem_declaredCounts_withLabel {default n : Int} {c : Collection} {label : String} :
    n ∈ declaredCounts default (withLabel label c.mentions) ↔
      ∃ m ∈ c.mentions, m.label = label ∧ m.args.countOr default = n := by
  simp only [mem_declaredCounts, mem_withLabel, and_assoc]

/-- Comments disagree exactly if two of the declared counts differ. -/
theorem disagree_iff {default : Int} {c : Collection} {label : String} :
    Disagree default c label ↔
      ∃ n ∈ declaredCounts default (withLabel label c.mentions),
        ∃ n' ∈ declaredCounts default (withLabel label c.mentions), n ≠ n' := by
  simp only [mem_declaredCounts_withLabel]
  constructor
  · rintro ⟨m, hm, m', hm', hlabel, hlabel', hne⟩
    exact ⟨_, ⟨m, hm, hlabel, rfl⟩, _, ⟨m', hm', hlabel', rfl⟩, hne⟩
  · rintro ⟨_, ⟨m, hm, hlabel, rfl⟩, _, ⟨m', hm', hlabel', rfl⟩, hne⟩
    exact ⟨m, hm, m', hm', hlabel, hlabel', hne⟩

/-- What the finding about the comments with a label blames. -/
theorem blamesLabel_of_countFinding {default : Int} {c : Collection} {label : String} {f : Finding}
    (h : countFinding default label (withLabel label c.mentions) = some f) :
    BlamesLabel default c label f := by
  have hplaces := map_withLabel_mentions c label
  have hdisagree := @disagree_iff default c label
  have hcounts := fun n => @mem_declaredCounts_withLabel default n c label
  have hsorted := pairwise_declaredCounts default (withLabel label c.mentions)
  rw [countFinding] at h
  generalize declaredCounts default (withLabel label c.mentions) = counts at *
  -- No count, one, or several, as the finding tells them apart.
  cases counts with
  | nil => cases h
  | cons expected others =>
    cases others with
    | nil =>
      have hagree : ¬Disagree default c label := by simp [hdisagree]
      dsimp only at h
      split at h
      · cases h
      · cases h
        exact ⟨iff_of_false (by simp) hagree, iff_of_true rfl hagree, hplaces, by simp⟩
    | cons other rest =>
      have hlt : expected < other := (List.pairwise_cons.mp hsorted).1 other List.mem_cons_self
      have hdiffer : Disagree default c label :=
        hdisagree.mpr ⟨expected, by simp, other, by simp, by omega⟩
      cases h
      exact ⟨iff_of_true rfl hdiffer, iff_of_false (by simp) fun h => h hdiffer, hplaces,
        fun _ => ⟨_, rfl, hsorted, hcounts⟩⟩

/-- Of the items, those that give something are matched with what they give. -/
theorem forall₂_filterMap {α β : Type} {R : α → β → Prop} {g : α → Option β} (xs : List α)
    (h : ∀ x y, g x = some y → R x y) :
    List.Forall₂ R (xs.filter fun x => (g x).isSome) (xs.filterMap g) := by
  induction xs with
  | nil => exact .nil
  | cons x rest ih =>
    rw [List.filter_cons, List.filterMap_cons]
    cases hg : g x with
    | none => exact ih
    | some y => exact .cons (h x y hg) ih

/-- A label is reported exactly if one of its comments is not counted rightly. -/
theorem isSome_countFinding_iff {default : Int} {c : Collection} {label : String} :
    (countFinding default label (withLabel label c.mentions)).isSome = true ↔
      ∃ m ∈ c.mentions, m.label = label ∧ ¬m.IsCounted default c := by
  rw [Option.isSome_iff_ne_none, ne_eq, countFinding_eq_none_iff]
  simp only [mem_withLabel, length_withLabel, Mention.IsCounted, not_forall, exists_prop, and_assoc]
  refine exists_congr fun m => and_congr_right fun _ => and_congr_right fun hlabel => ?_
  rw [hlabel]

/-- The second stage has exactly one finding for each label with a comment that does not declare as
many comments as carry the label. The labels stand in the order in which they are first met, and
each finding blames the comments with its label. If there is such a label the run ends here with
these findings, and if there is none it goes on. -/
theorem run_blames_counts (o : Options) (c : Collection) (hon : o.checkCounts = true)
    (hvalid : o.checkInvalid = true → ¬c.HasInvalid) :
    ∃ labels : List String,
      (∀ label, label ∈ labels ↔
        ∃ m ∈ c.mentions, m.label = label ∧ ¬m.IsCounted o.defaultCount c) ∧
      labels.Pairwise (fun label label' =>
        (c.mentions.map Mention.label).idxOf label < (c.mentions.map Mention.label).idxOf label') ∧
      List.Forall₂ (BlamesLabel o.defaultCount c) labels (countFindings o.defaultCount c) ∧
      run o c = (if labels = [] then ⟨styleFindings o c, none, c.files.length, c.total⟩
        else ⟨countFindings o.defaultCount c, some .counts, c.files.length, c.total⟩) := by
  have hnone : o.checkInvalid = true → invalidFindings c = [] := fun h =>
    (invalidFindings_eq_nil_iff c).mpr (hvalid h)
  let finds (label : String) : Option Finding :=
    countFinding o.defaultCount label (withLabel label c.mentions)
  let labels := (c.mentions.map Mention.label).eraseDups.filter fun label => (finds label).isSome
  have hblames : List.Forall₂ (BlamesLabel o.defaultCount c) labels
      (countFindings o.defaultCount c) := by
    rw [countFindings_eq]
    exact forall₂_filterMap _ fun label f => blamesLabel_of_countFinding
  refine ⟨labels, fun label => ?_, (pairwise_idxOf_eraseDups _).filter _, hblames, ?_⟩
  · rw [List.mem_filter, isSome_countFinding_iff, List.mem_eraseDups, List.mem_map]
    refine and_iff_right_of_imp ?_
    rintro ⟨m, hm, hlabel, _⟩
    exact ⟨m, hm, hlabel⟩
  · have hlength := hblames.length_eq
    split
    · rename_i hempty
      refine RunsTo.run_eq (.style hnone fun _ => ?_)
      rwa [hempty, List.length_nil, eq_comm, List.length_eq_zero_iff] at hlength
    · rename_i hsome
      refine RunsTo.run_eq (.counts hnone hon fun hempty => hsome ?_)
      rwa [hempty, List.length_nil, List.length_eq_zero_iff] at hlength

/-- A file with two annotations of other labels: the first declares one and the second no count. -/
def otherLabelsFile : ScannedFile :=
  ⟨⟨.workDir, ["c.c"]⟩,
    [⟨0, .valid ⟨⟨"y", "y", ⟨9, 10⟩⟩, some ⟨1, "1", ⟨12, 13⟩⟩, 6⟩, 8⟩,
      ⟨20, .valid ⟨⟨"z", "z", ⟨29, 30⟩⟩, none, 3⟩, 8⟩], none⟩

/-- Of three labels the first is blamed for a disagreement across files, the second is counted
rightly, and the third is blamed for its number. -/
theorem run_blames_counts_two_of_three :
    ({} : Options).checkCounts = true ∧
    ¬(Collection.mk [undeclaredFile, otherLabelsFile, declaredFile]).HasInvalid ∧
    (run {} ⟨[undeclaredFile, otherLabelsFile, declaredFile]⟩).findings.map (·.code) =
      [.countDisagreement, .countMismatch] ∧
    ∃ labels : List String, "x" ∈ labels ∧ "y" ∉ labels ∧ "z" ∈ labels ∧
      List.Forall₂ (BlamesLabel 2 ⟨[undeclaredFile, otherLabelsFile, declaredFile]⟩) labels
        (countFindings 2 ⟨[undeclaredFile, otherLabelsFile, declaredFile]⟩) := by
  have hvalid : ¬(Collection.mk [undeclaredFile, otherLabelsFile, declaredFile]).HasInvalid := by
    decide
  obtain ⟨labels, hlabels, _, hblames, _⟩ := run_blames_counts {}
    ⟨[undeclaredFile, otherLabelsFile, declaredFile]⟩ rfl fun _ => hvalid
  refine ⟨rfl, hvalid, by cbv, labels, ?_, ?_, ?_, hblames⟩
  · exact (hlabels "x").mpr (by decide)
  · exact mt (hlabels "y").mp (by decide)
  · exact (hlabels "z").mpr (by decide)

end LabelTally.Check
