import LabelTally.Proofs.Check.Verdict
import LabelTally.Proofs.Report.Blame

/-!
# Where findings point

Every place of every finding is one that a match of the file there can be blamed for: the match, its
label, its count, or what stands in place of a count.
-/

namespace LabelTally

open Comment (Match)

/-- Arguments that a match has are those of a valid list. -/
theorem Comment.Match.outcome_of_args? {m : Match} {args : Comment.Args} (h : m.args? = some args) :
    m.outcome = .valid args := by
  rw [Match.args?] at h
  split at h
  · cases h
    assumption
  · cases h

/-- A comment is a match of its file, with the arguments that were read. -/
theorem Collection.exists_of_mem_mentions {c : Collection} {x : Mention} (h : x ∈ c.mentions) :
    ∃ f ∈ c.files, f.path = x.path ∧ x.found ∈ f.found ∧ x.found.outcome = .valid x.args := by
  obtain ⟨⟨f, i⟩, hf, hx⟩ := List.mem_flatMap.mp h
  obtain ⟨⟨m, j⟩, hm, hx⟩ := List.mem_filterMap.mp hx
  obtain ⟨args, hargs, rfl⟩ := Option.map_eq_some_iff.mp hx
  exact ⟨f, List.mem_of_getElem? (List.mem_zipIdx_iff_getElem?.mp hf), rfl,
    List.mem_of_getElem? (List.mem_zipIdx_iff_getElem?.mp hm), Match.outcome_of_args? hargs⟩

namespace Check

/-- Some match of the file at a place can be blamed for it. -/
def Location.IsBlamed (c : Collection) (l : Location) : Prop :=
  ∃ f ∈ c.files, ∃ m ∈ f.found, f.path = l.path ∧ m.Blames l.span

/-- Whatever can be blamed of a comment is so in the collection. -/
theorem isBlamed_of_mem_mentions {c : Collection} {x : Mention} (hx : x ∈ c.mentions) {span : Span}
    (h : x.found.outcome = .valid x.args → x.found.Blames span) :
    Location.IsBlamed c ⟨x.path, span⟩ := by
  obtain ⟨f, hf, hpath, hfound, hvalid⟩ := Collection.exists_of_mem_mentions hx
  exact ⟨f, hf, x.found, hfound, hpath, h hvalid⟩

variable {c : Collection} {f : Finding} {l : Location}

/-- The findings of the first stage point at what can be blamed. -/
theorem isBlamed_of_mem_invalidFindings (hf : f ∈ invalidFindings c) (hl : l ∈ f.locations) :
    l.IsBlamed c := by
  obtain ⟨x, hx, rfl⟩ := List.mem_map.mp hf
  obtain ⟨file, hfile, hpath, hfound, _⟩ := Collection.mem_invalid.mp hx
  refine ⟨file, List.mem_of_getElem? hfile, x.found, List.mem_of_getElem? hfound, ?_⟩
  rw [invalidFinding] at hl
  split at hl
  · rename_i span houtcome
    obtain rfl := List.mem_singleton.mp hl
    refine ⟨hpath, ?_⟩
    have hspan : x.found.errorSpan = span := by rw [Match.errorSpan, houtcome]
    rw [hspan]
    exact .badCount houtcome
  · obtain rfl := List.mem_singleton.mp hl
    exact ⟨hpath, .whole⟩

/-- A finding about a group points at the comments of the group. -/
theorem mem_of_countFinding {default : Int} {label : String} {group : List Mention}
    (h : countFinding default label group = some f) (hl : l ∈ f.locations) :
    ∃ x ∈ group, l = ⟨x.path, x.found.span⟩ := by
  have hlocations : f.locations = group.map fun x => ⟨x.path, x.found.span⟩ := by
    rw [countFinding] at h
    split at h
    · cases h
    · split at h <;> cases h
      rfl
    · cases h
      rfl
  rw [hlocations, List.mem_map] at hl
  obtain ⟨x, hx, rfl⟩ := hl
  exact ⟨x, hx, rfl⟩

/-- The findings of the second stage point at what can be blamed. -/
theorem isBlamed_of_mem_countFindings {default : Int} (hf : f ∈ countFindings default c)
    (hl : l ∈ f.locations) : l.IsBlamed c := by
  obtain ⟨g, hg, hf⟩ := List.mem_filterMap.mp hf
  obtain ⟨x, hx, rfl⟩ := mem_of_countFinding hf hl
  rw [(Collection.mem_groups.mp hg).2, mem_withLabel] at hx
  exact isBlamed_of_mem_mentions hx.1 fun _ => .whole

/-- A finding about blanks points at its argument. -/
theorem eq_of_blankFinding {α : Type} {path : Path} {name : String} {a : Comment.Arg α}
    (h : f ∈ blankFinding path name a) (hl : l ∈ f.locations) : l = ⟨path, a.span⟩ := by
  rw [blankFinding] at h
  split at h
  · cases h
    exact List.mem_singleton.mp hl
  · cases h

/-- The findings about the blanks of a comment point at what can be blamed. -/
theorem isBlamed_of_mem_blankFindings {x : Mention} (hx : x ∈ c.mentions)
    (hf : f ∈ blankFindings x) (hl : l ∈ f.locations) : l.IsBlamed c := by
  rw [blankFindings, List.mem_append, Option.mem_toList] at hf
  rcases hf with hf | hf
  · rw [eq_of_blankFinding hf hl]
    exact isBlamed_of_mem_mentions hx .label
  · split at hf
    · rename_i a hcount
      rw [eq_of_blankFinding (Option.mem_toList.mp hf) hl]
      exact isBlamed_of_mem_mentions hx fun h => .count h hcount
    · cases hf

/-- The findings of the last stage point at what can be blamed. -/
theorem isBlamed_of_mem_styleFindings {o : Options} (hf : f ∈ styleFindings o c)
    (hl : l ∈ f.locations) : l.IsBlamed c := by
  rw [styleFindings, List.mem_append, List.mem_append] at hf
  rcases hf with (hf | hf) | hf
  · split at hf
    · obtain ⟨x, hx, hf⟩ := List.mem_filterMap.mp hf
      rw [casingFinding] at hf
      split at hf <;> cases hf
      obtain rfl := List.mem_singleton.mp hl
      exact isBlamed_of_mem_mentions hx .label
    · cases hf
  · split at hf
    · obtain ⟨x, hx, hf⟩ := List.mem_flatMap.mp hf
      exact isBlamed_of_mem_blankFindings hx hf hl
    · cases hf
  · split at hf
    · obtain ⟨x, hx, hf⟩ := List.mem_filterMap.mp hf
      rw [patternFinding] at hf
      split at hf <;> cases hf
      obtain rfl := List.mem_singleton.mp hl
      exact isBlamed_of_mem_mentions hx .label
    · cases hf

/-- Every place of every finding is one that a match of the file there can be blamed for. -/
theorem isBlamed_of_mem_run {o : Options} (hf : f ∈ (run o c).findings) (hl : l ∈ f.locations) :
    l.IsBlamed c := by
  have hruns := run_runsTo o c
  generalize run o c = report at hruns hf
  cases hruns with
  | invalid _ _ => exact isBlamed_of_mem_invalidFindings hf hl
  | counts _ _ _ => exact isBlamed_of_mem_countFindings hf hl
  | style _ _ => exact isBlamed_of_mem_styleFindings hf hl

end Check

end LabelTally
