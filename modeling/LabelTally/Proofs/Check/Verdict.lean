import LabelTally.Check.Rules
import LabelTally.Proofs.Collection.Views

/-!
# The verdict of a run

What the rules ask of a collection, said of its files and comments: no match is invalid, each
comment declares as many comments as there are with its label, and each is in style. A run stops
after the first stage that is asked for and not met, and it has no findings exactly if it does not
stop and all comments are in style.
-/

namespace LabelTally

open Comment (Match)

/-- Some file has an invalid match. -/
def Collection.HasInvalid (c : Collection) : Prop :=
  ∃ f ∈ c.files, ∃ m ∈ f.found, m.isValid = false

instance (c : Collection) : Decidable c.HasInvalid :=
  inferInstanceAs (Decidable (∃ f ∈ c.files, ∃ m ∈ f.found, m.isValid = false))

/-- A comment declares as many comments as carry its label in all files together. -/
def Mention.IsCounted (default : Int) (c : Collection) (m : Mention) : Prop :=
  m.args.countOr default = (c.mentions.map Mention.label).count m.label

instance (default : Int) (c : Collection) (m : Mention) : Decidable (m.IsCounted default c) :=
  inferInstanceAs (Decidable (_ = _))

namespace Check

/-- A comment meets the rules of the last stage. -/
structure InStyle (o : Options) (m : Mention) : Prop where
  /-- The label is what the style makes of it. -/
  cased : ∀ s, o.style = some s →
    String.ofList (Label.convert s o.acronyms m.label.toList) = m.label
  /-- No argument has blanks around it. -/
  tight : o.strictBlanks = true → m.args.label.trimmed = m.args.label.text ∧
    ∀ a, m.args.count = some a → a.trimmed = a.text
  /-- The label matches the pattern from end to end. -/
  matching : ∀ p, o.labelPattern = some p → p.accepts m.label = true

/-- How a run ends, stage by stage. -/
inductive RunsTo (o : Options) (c : Collection) : Report → Prop
  /-- Invalid matches end the run. -/
  | invalid (hon : o.checkInvalid = true) (hfound : invalidFindings c ≠ []) :
    RunsTo o c ⟨invalidFindings c, some .invalid, c.files.length, c.total⟩
  /-- Counts that do not agree end the run. -/
  | counts (hvalid : o.checkInvalid = true → invalidFindings c = []) (hon : o.checkCounts = true)
    (hfound : countFindings o.defaultCount c ≠ []) :
    RunsTo o c ⟨countFindings o.defaultCount c, some .counts, c.files.length, c.total⟩
  /-- The run comes to its last stage. -/
  | style (hvalid : o.checkInvalid = true → invalidFindings c = [])
    (hagree : o.checkCounts = true → countFindings o.defaultCount c = []) :
    RunsTo o c ⟨styleFindings o c, none, c.files.length, c.total⟩

/-- A stage ends the run exactly if it is asked for and has findings. -/
theorem stage_reports_iff {on : Bool} {found : List Finding} :
    (!(if on then found else []).isEmpty) = true ↔ on = true ∧ found ≠ [] := by
  cases on <;> simp

/-- Every run ends in one of the three ways. -/
theorem run_runsTo (o : Options) (c : Collection) : RunsTo o c (run o c) := by
  unfold run
  by_cases hinvalid : o.checkInvalid = true ∧ invalidFindings c ≠ []
  · rw [if_pos (stage_reports_iff.mpr hinvalid), if_pos hinvalid.1]
    exact .invalid hinvalid.1 hinvalid.2
  · have hvalid : o.checkInvalid = true → invalidFindings c = [] := by
      intro hon
      by_contra hne
      exact hinvalid ⟨hon, hne⟩
    rw [if_neg (mt stage_reports_iff.mp hinvalid)]
    by_cases hcounts : o.checkCounts = true ∧ countFindings o.defaultCount c ≠ []
    · rw [if_pos (stage_reports_iff.mpr hcounts), if_pos hcounts.1]
      exact .counts hvalid hcounts.1 hcounts.2
    · rw [if_neg (mt stage_reports_iff.mp hcounts)]
      refine .style hvalid fun hon => ?_
      by_contra hne
      exact hcounts ⟨hon, hne⟩

/-- The first stage has findings exactly if some match is invalid. -/
theorem invalidFindings_eq_nil_iff (c : Collection) : invalidFindings c = [] ↔ ¬c.HasInvalid := by
  rw [invalidFindings, List.map_eq_nil_iff, List.eq_nil_iff_forall_not_mem]
  constructor
  · rintro h ⟨f, hf, m, hm, hinvalid⟩
    obtain ⟨i, hi⟩ := List.mem_iff_getElem?.mp hf
    obtain ⟨j, hj⟩ := List.mem_iff_getElem?.mp hm
    exact h ⟨f.path, i, j, m⟩ (Collection.mem_invalid.mpr ⟨f, hi, rfl, hj, hinvalid⟩)
  · intro h x hx
    obtain ⟨f, hf, _, hm, hinvalid⟩ := Collection.mem_invalid.mp hx
    exact h ⟨f, List.mem_of_getElem? hf, x.found, List.mem_of_getElem? hm, hinvalid⟩

/-- The declared counts are those that some comment of the group declares. -/
theorem mem_declaredCounts {default n : Int} {group : List Mention} :
    n ∈ declaredCounts default group ↔ ∃ m ∈ group, m.args.countOr default = n := by
  rw [declaredCounts, List.mem_mergeSort, List.mem_eraseDups, List.mem_map]

/-- No count is listed twice. -/
theorem nodup_declaredCounts (default : Int) (group : List Mention) :
    (declaredCounts default group).Nodup := by
  rw [declaredCounts, (List.mergeSort_perm _ _).nodup_iff]
  exact nodup_eraseDups _

/-- A group is not reported exactly if each comment declares the size of the group. -/
theorem countFinding_eq_none_iff (default : Int) (label : String) (group : List Mention) :
    countFinding default label group = none ↔
      ∀ m ∈ group, m.args.countOr default = group.length := by
  have hmem : ∀ n, n ∈ declaredCounts default group ↔
      ∃ m ∈ group, m.args.countOr default = n := fun _ => mem_declaredCounts
  have hnodup := nodup_declaredCounts default group
  unfold countFinding
  generalize declaredCounts default group = counts at hmem hnodup
  match counts with
  | [] =>
    refine iff_of_true rfl fun m hm => ?_
    exact absurd ((hmem _).mpr ⟨m, hm, rfl⟩) List.not_mem_nil
  | [expected] =>
    have hall : ∀ m ∈ group, m.args.countOr default = expected := fun m hm =>
      List.mem_singleton.mp ((hmem _).mpr ⟨m, hm, rfl⟩)
    obtain ⟨m, hm, hexpected⟩ := (hmem expected).mp List.mem_cons_self
    by_cases hlength : (group.length : Int) = expected
    · refine iff_of_true (if_pos hlength) fun m' hm' => ?_
      rw [hall m' hm', hlength]
    · refine iff_of_false (by simp [hlength]) fun h => hlength ?_
      rw [← h m hm, hexpected]
  | a :: b :: rest =>
    -- Two different counts cannot both be the size of the group.
    refine iff_of_false (by simp) fun h => ?_
    obtain ⟨m, hm, ha⟩ := (hmem a).mp List.mem_cons_self
    obtain ⟨m', hm', hb⟩ := (hmem b).mp (List.mem_cons_of_mem _ List.mem_cons_self)
    have hab : a = b := by rw [← ha, ← hb, h m hm, h m' hm']
    simp [hab] at hnodup

/-- The second stage has no findings exactly if each comment is counted rightly. -/
theorem countFindings_eq_nil_iff (default : Int) (c : Collection) :
    countFindings default c = [] ↔ ∀ m ∈ c.mentions, m.IsCounted default c := by
  rw [countFindings, List.filterMap_eq_nil_iff, Collection.forall_groups]
  simp only [countFinding_eq_none_iff, mem_withLabel, length_withLabel]
  constructor
  · intro h m hm
    exact h m hm m ⟨hm, rfl⟩
  · rintro h m hm m' ⟨hm', hlabel⟩
    rw [← hlabel]
    exact h m' hm'

/-- A label is not reported exactly if it is what the style makes of it. -/
theorem casingFinding_eq_none_iff (s : Label.Style) (rule : Label.AcronymRule) (m : Mention) :
    casingFinding s rule m = none ↔
      String.ofList (Label.convert s rule m.label.toList) = m.label := by
  simp [casingFinding]

/-- An argument is not reported exactly if it has no blanks around it. -/
theorem blankFinding_eq_none_iff {α : Type} (path : Path) (name : String) (a : Comment.Arg α) :
    blankFinding path name a = none ↔ a.trimmed = a.text := by
  simp [blankFinding, Comment.Arg.hasExtraBlanks]

/-- Arguments are not reported exactly if none has blanks around it. -/
theorem blankFindings_eq_nil_iff (m : Mention) :
    blankFindings m = [] ↔ m.args.label.trimmed = m.args.label.text ∧
      ∀ a, m.args.count = some a → a.trimmed = a.text := by
  unfold blankFindings
  rw [List.append_eq_nil_iff, Option.toList_eq_nil_iff, blankFinding_eq_none_iff]
  cases m.args.count <;> simp [Option.toList_eq_nil_iff, blankFinding_eq_none_iff]

/-- A label is not reported exactly if it matches the pattern. -/
theorem patternFinding_eq_none_iff (p : LabelPattern) (m : Mention) :
    patternFinding p m = none ↔ p.accepts m.label = true := by
  simp [patternFinding]

/-- The last stage has no findings exactly if each comment is in style. -/
theorem styleFindings_eq_nil_iff (o : Options) (c : Collection) :
    styleFindings o c = [] ↔ ∀ m ∈ c.mentions, InStyle o m := by
  have hsplit : (∀ m ∈ c.mentions, InStyle o m) ↔
      ((∀ m ∈ c.mentions, ∀ s, o.style = some s →
        String.ofList (Label.convert s o.acronyms m.label.toList) = m.label) ∧
      ∀ m ∈ c.mentions, o.strictBlanks = true → m.args.label.trimmed = m.args.label.text ∧
        ∀ a, m.args.count = some a → a.trimmed = a.text) ∧
      ∀ m ∈ c.mentions, ∀ p, o.labelPattern = some p → p.accepts m.label = true := by
    constructor
    · intro h
      exact ⟨⟨fun m hm => (h m hm).cased, fun m hm => (h m hm).tight⟩,
        fun m hm => (h m hm).matching⟩
    · rintro ⟨⟨hcased, htight⟩, hmatching⟩ m hm
      exact ⟨hcased m hm, htight m hm, hmatching m hm⟩
  rw [styleFindings, List.append_eq_nil_iff, List.append_eq_nil_iff, hsplit]
  refine and_congr (and_congr ?_ ?_) ?_
  · cases o.style <;> simp [List.filterMap_eq_nil_iff, casingFinding_eq_none_iff]
  · cases o.strictBlanks <;> simp [List.flatMap_eq_nil_iff, blankFindings_eq_nil_iff]
  · cases o.labelPattern <;> simp [List.filterMap_eq_nil_iff, patternFinding_eq_none_iff]

/-- The stage after which a run stops is the first that is asked for and not met, and the run has no
findings exactly if it does not stop and every comment is in style. -/
theorem run_verdict (o : Options) (c : Collection) :
    (run o c).stoppedAfter =
      (if o.checkInvalid = true ∧ c.HasInvalid then some .invalid
      else if o.checkCounts = true ∧ ∃ m ∈ c.mentions, ¬m.IsCounted o.defaultCount c then
        some .counts
      else none) ∧
    ((run o c).findings = [] ↔
      (run o c).stoppedAfter = none ∧ ∀ m ∈ c.mentions, InStyle o m) := by
  have hinvalid := invalidFindings_eq_nil_iff c
  have hcounted := countFindings_eq_nil_iff o.defaultCount c
  have hruns := run_runsTo o c
  generalize run o c = report at hruns
  cases hruns with
  | invalid hon hfound =>
    have hhas : c.HasInvalid := by
      by_contra hnone
      exact hfound (hinvalid.mpr hnone)
    exact ⟨(if_pos ⟨hon, hhas⟩).symm, iff_of_false hfound (by simp)⟩
  | counts hvalid hon hfound =>
    have hnone : ¬(o.checkInvalid = true ∧ c.HasInvalid) := fun h => hinvalid.mp (hvalid h.1) h.2
    have hwrong : ∃ m ∈ c.mentions, ¬m.IsCounted o.defaultCount c := by
      by_contra hall
      refine hfound (hcounted.mpr fun m hm => ?_)
      by_contra hm'
      exact hall ⟨m, hm, hm'⟩
    rw [if_neg hnone, if_pos ⟨hon, hwrong⟩]
    exact ⟨rfl, iff_of_false hfound (by simp)⟩
  | style hvalid hagree =>
    have hnone : ¬(o.checkInvalid = true ∧ c.HasInvalid) := fun h => hinvalid.mp (hvalid h.1) h.2
    have hright : ¬(o.checkCounts = true ∧ ∃ m ∈ c.mentions, ¬m.IsCounted o.defaultCount c) := by
      rintro ⟨hon, m, hm, hwrong⟩
      exact hwrong (hcounted.mp (hagree hon) m hm)
    rw [if_neg hnone, if_neg hright]
    refine ⟨rfl, ?_⟩
    rw [styleFindings_eq_nil_iff]
    simp only [true_and]

end Check

end LabelTally
