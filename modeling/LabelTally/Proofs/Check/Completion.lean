import LabelTally.Check.Unchecked
import LabelTally.Proofs.Check.Verdict
import LabelTally.Proofs.Comment.Scan

/-!
# When a check completes

With options of the right kinds a check gives its report unless the label pattern is crossed by a
label, and a scan gives its matches unless it comes to a count of too many digits. So scanning a
file and checking what is found there completes exactly if neither is met, and then every invalid
match has a finding. Counts that are too large, but not too long, are no obstacle.
-/

namespace LabelTally.Check

open Comment Decimal Occurrence Text

/-- Options of the right kinds, as they are given. -/
def Unchecked.ofOptions (o : Options) : Unchecked where
  options := o
  acronyms := o.acronyms.acronyms.map fun a => .text (String.ofList a)
  defaultCount := .int o.defaultCount

/-- The label pattern matches the label of some comment with a kept text that ends before it
starts. -/
def MeetsCrossedLabel (o : Options) (c : Collection) : Prop :=
  ∃ p, o.labelPattern = some p ∧ ∃ m ∈ c.mentions, p.isCrossedBy m.label = true

/-- The rules break off exactly if they come to their last stage and a label crosses the pattern. -/
theorem breaksOff_iff (o : Options) (c : Collection) :
    breaksOff o c = true ↔ (run o c).stoppedAfter = none ∧ MeetsCrossedLabel o c := by
  unfold breaksOff MeetsCrossedLabel
  cases o.labelPattern with
  | none => simp
  | some p => simp [List.any_eq_true]

/-- Acronyms that are texts are no obstacle. -/
theorem acronymFault?_ofOptions (o : Options) : (Unchecked.ofOptions o).acronymFault? = none := by
  have hothers : ((Unchecked.ofOptions o).acronyms.filter Value.isTrue).filter
      (fun v => (Unchecked.textOf? v).isNone) = [] := by
    refine List.filter_eq_nil_iff.mpr fun v hv => ?_
    obtain ⟨a, _, rfl⟩ := List.mem_map.mp (List.mem_filter.mp hv).1
    simp [Unchecked.textOf?]
  unfold Unchecked.acronymFault?
  simp only [hothers]
  split <;> rfl

/-- Options of the right kinds are no obstacle to the last stage. -/
theorem styleFault?_ofOptions (o : Options) (c : Collection) :
    (Unchecked.ofOptions o).styleFault? c = none := by
  unfold Unchecked.styleFault?
  rw [acronymFault?_ofOptions]
  simp [Unchecked.ofOptions]

/-- A default count that is a number gives the findings of the second stage. -/
theorem countFindings_ofOptions (o : Options) (c : Collection) :
    (Unchecked.ofOptions o).countFindings c = pure (countFindings o.defaultCount c) := by
  have hgroups : c.groups.mapM (fun g => (Unchecked.ofOptions o).countFinding g.1 g.2) =
      .ok (c.groups.map fun g => countFinding o.defaultCount g.1 g.2) :=
    List.mapM_pure
  unfold Unchecked.countFindings
  rw [hgroups, countFindings, ← Function.id_comp (fun g : String × List Mention =>
    countFinding o.defaultCount g.1 g.2), ← List.filterMap_map]
  rfl

/-- Where the second stage has no findings it may be left out. -/
theorem run_without_counts {o : Options} {c : Collection}
    (h : o.checkCounts = true → countFindings o.defaultCount c = []) :
    run { o with checkCounts := false } c = run o c := by
  have hcounts : (if o.checkCounts then countFindings o.defaultCount c else []) = [] := by
    split
    · exact h ‹_›
    · rfl
  unfold run
  simp only [hcounts, Bool.false_eq_true, if_false]
  rfl

/-- Then the rules break off with it or without it. -/
theorem breaksOff_without_counts {o : Options} {c : Collection}
    (h : o.checkCounts = true → countFindings o.defaultCount c = []) :
    breaksOff { o with checkCounts := false } c = breaksOff o c := by
  unfold breaksOff
  rw [run_without_counts h]

/-- A first stage without findings does not end the run. -/
theorem invalid_stage_eq_false {o : Options} {c : Collection}
    (h : o.checkInvalid = true → invalidFindings c = []) :
    (o.checkInvalid && !(invalidFindings c).isEmpty) = false := by
  cases hon : o.checkInvalid with
  | false => rfl
  | true => simp [h hon]

/-- With options of the right kinds a check gives its report unless it breaks off. -/
theorem run_ofOptions (o : Options) (c : Collection) :
    (Unchecked.ofOptions o).run c =
      if breaksOff o c = true then .error .crossed else .ok (run o c) := by
  have hbreaks := breaksOff_iff o c
  have hruns := run_runsTo o c
  unfold Unchecked.run
  rw [countFindings_ofOptions, styleFault?_ofOptions]
  simp only [Unchecked.ofOptions]
  generalize hreport : run o c = report at hruns hbreaks ⊢
  cases hruns with
  | invalid hon hfound =>
    have hgoes : breaksOff o c = false := by simpa using hbreaks
    simp only [hon, hgoes, List.isEmpty_eq_false_iff.mpr hfound]
    rfl
  | counts hvalid hon hfound =>
    have hgoes : breaksOff o c = false := by simpa using hbreaks
    simp only [invalid_stage_eq_false hvalid, hon, hgoes, pure_bind,
      List.isEmpty_eq_false_iff.mpr hfound]
    rfl
  | style hvalid hagree =>
    simp only [invalid_stage_eq_false hvalid, run_without_counts hagree,
      breaksOff_without_counts hagree, hreport, pure_bind]
    cases hon : o.checkCounts with
    | true =>
      simp only [hagree hon]
      rfl
    | false => rfl

/-- Every invalid match of a file has a finding at the stretch that is to blame. -/
theorem exists_finding_of_invalid {o : Options} {c : Collection} {f : ScannedFile} {m : Match}
    (hon : o.checkInvalid = true) (hf : f ∈ c.files) (hm : m ∈ f.found)
    (hinvalid : m.isValid = false) :
    ∃ x ∈ (run o c).findings, x.locations = [⟨f.path, m.errorSpan⟩] := by
  obtain ⟨i, hi⟩ := List.mem_iff_getElem?.mp hf
  obtain ⟨j, hj⟩ := List.mem_iff_getElem?.mp hm
  have hmem : (⟨f.path, i, j, m⟩ : InvalidMention) ∈ c.invalid :=
    Collection.mem_invalid.mpr ⟨f, hi, rfl, hj, hinvalid⟩
  have hreported : invalidFinding ⟨f.path, i, j, m⟩ ∈ invalidFindings c := List.mem_map_of_mem hmem
  have hruns := run_runsTo o c
  generalize run o c = report at hruns
  cases hruns with
  | invalid _ hfound =>
    refine ⟨_, hreported, ?_⟩
    cases ho : m.outcome with
    | valid args => simp [Match.isValid, Match.args?, ho] at hinvalid
    | malformed => simp only [invalidFinding, Match.errorSpan, ho]
    | invalidCount span => simp only [invalidFinding, Match.errorSpan, ho]
  | counts hvalid _ _ =>
    rw [hvalid hon] at hreported
    cases hreported
  | style hvalid _ =>
    rw [hvalid hon] at hreported
    cases hreported

/-- The arguments of an annotation with one letter for a label and a count of so many nines. -/
def ninesArguments (n : Nat) : ArgumentBytes := ⟨[97], some ⟨true, List.replicate n 57⟩⟩

/-- A file with an annotation of more nines than are read cannot be scanned. -/
theorem meetsOverlongCount_nines {n : Nat} (hn : digitLimit < n) :
    MeetsOverlongCount marker (marker.items.toList ++ (ninesArguments n).write) := by
  have hnine : ∀ b ∈ List.replicate n (57 : UInt8), b = 57 := fun _ => List.eq_of_mem_replicate
  have hwellFormed : (ninesArguments n).WellFormed := by
    refine ⟨by simp [ninesArguments, comma, closeParen], ?_, ?_⟩
    · rintro c ⟨⟩ hmem
      exact absurd (hnine _ hmem) (by decide)
    · rintro c ⟨⟩ hplain
      cases hplain
  refine meetsOverlongCount_of_written hwellFormed rfl rfl ?_ ?_ ?_
  · intro b hb
    rw [hnine b hb]
    exact ⟨by decide, by decide⟩
  · rwa [List.length_replicate]
  · intro b hb
    rcases List.mem_append.mp hb with hmarker | hwritten
    · exact marker_free b hmarker
    · have hbyte : b ∈ [openParen, 97, comma, space, 57, closeParen] := by
        simp only [ArgumentBytes.write, CountBytes.write, ninesArguments, if_true, List.cons_append,
          List.nil_append, List.mem_cons, List.mem_append] at hwritten ⊢
        grind
      exact not_isTerminator_of_all (by decide) b hbyte

/-- Scanning a file and checking what is found gives a report, with a finding for every invalid
match if these are asked for. -/
def Completes (o : Options) (path : Path) (content : Option (List UInt8)) (data : List UInt8) :
    Prop :=
  ∃ found report, scan marker data = .ok found ∧
    (Unchecked.ofOptions o).run ⟨[⟨path, found, content⟩]⟩ = .ok report ∧
    (o.checkInvalid = true → ∀ m ∈ found, m.isValid = false →
      ∃ x ∈ report.findings, x.locations = [⟨path, m.errorSpan⟩])

/-- Scanning a file and checking what is found completes exactly if the scan comes to no count of
too many digits and no label crosses the pattern in the last stage, by whichever release of the
matcher the pattern is run. A count that is too large is refused where its argument stands if it is
not too long, and cannot be read if it is. -/
theorem completes_iff (o : Options) (path : Path) (content : Option (List UInt8))
    (data : List UInt8) :
    (Completes o path content data ↔
      ¬MeetsOverlongCount marker data ∧
        ∀ found, scan marker data = .ok found →
          (run o ⟨[⟨path, found, content⟩]⟩).stoppedAfter = none →
          ¬MeetsCrossedLabel o ⟨[⟨path, found, content⟩]⟩) ∧
    ∀ (line : List UInt8) (pos lineOffset place : Int) (a : ArgumentBytes) (c : CountBytes)
      (digits : List Char), place = min (max pos 0) line.length →
      ArgumentBytes.read (line.drop place.toNat) = some a → a.count = some c →
      digits = trim (Utf8.decode c.raw) → isDigitRun digits = true →
      maxCount < digitsValue digits →
      Outcome.readAt line pos lineOffset =
        if a.isBlank = true then .ok .malformed
        else if digits.length ≤ digitLimit then
          .ok (.invalidCount (a.countSpan c (lineOffset + place)))
        else .error ⟨digits.length⟩ := by
  refine ⟨⟨?_, ?_⟩, ?_⟩
  · rintro ⟨found, report, hscan, hrun, _⟩
    refine ⟨fun hlong => ?_, fun found' hscan' hlast hcrossed => ?_⟩
    · obtain ⟨e, he⟩ := scan_eq_error_iff.mpr hlong
      rw [hscan] at he
      cases he
    · rw [hscan] at hscan'
      cases hscan'
      rw [run_ofOptions, if_pos ((breaksOff_iff _ _).mpr ⟨hlast, hcrossed⟩)] at hrun
      cases hrun
  · rintro ⟨hshort, hlabels⟩
    cases hscan : scan marker data with
    | error e => exact absurd (scan_eq_error_iff.mp ⟨e, hscan⟩) hshort
    | ok found =>
      refine ⟨found, run o ⟨[⟨path, found, content⟩]⟩, hscan, ?_, fun hon m hm hinvalid => ?_⟩
      · rw [run_ofOptions, if_neg]
        intro hbreaks
        obtain ⟨hlast, hcrossed⟩ := (breaksOff_iff _ _).mp hbreaks
        exact hlabels found hscan hlast hcrossed
      · exact exists_finding_of_invalid hon List.mem_cons_self hm hinvalid
  · rintro line pos lineOffset _ a c _ rfl hread hcount rfl hrun hlarge
    exact Outcome.readAt_of_large_count lineOffset hread hcount hrun hlarge

/-- A file whose count has 4301 nines is not checked at all, while a count of five digits is refused
where it stands. -/
theorem not_completes_4301_nines :
    ¬Completes {} Path.here none (marker.items.toList ++ (ninesArguments 4301).write) ∧
      Outcome.readAt [40, 97, 44, 32, 55, 48, 48, 48, 48, 41] 0 0 = .ok (.invalidCount ⟨4, 9⟩) := by
  constructor
  · intro h
    exact ((completes_iff _ _ _ _).1.mp h).1 (meetsOverlongCount_nines (by decide))
  · exact (completes_iff {} Path.here none []).2 [40, 97, 44, 32, 55, 48, 48, 48, 48, 41] 0 0 0
      ⟨[97], some ⟨true, [55, 48, 48, 48, 48]⟩⟩ ⟨true, [55, 48, 48, 48, 48]⟩
      ['7', '0', '0', '0', '0'] (by decide) (by decide) rfl (by decide) (by decide) (by decide)

end LabelTally.Check
