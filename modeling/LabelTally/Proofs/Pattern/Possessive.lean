import LabelTally.Proofs.Pattern.Marks

/-!
# Possessive repetitions

Where a failed round is as if it had not been tried, a possessive repetition that must have at most
one round is the greedy one of which only the first match is tried. Its rounds are run as outside of
a repetition, so this needs a body that keeps no text, or a place where marks are taken back anyway.
With more rounds that it must have the two differ, because a possessive repetition never goes back
to the earlier ones.
-/

namespace LabelTally.Pattern

/-- The rounds that a repetition may still have after `count` of them. -/
def spareRounds (most : Option Nat) (count fuel : Nat) : Nat :=
  (most.map fun m => min (m - count) fuel).getD fuel

theorem spareRounds_zero (most : Option Nat) (count : Nat) : spareRounds most count 0 = 0 := by
  cases most <;> simp [spareRounds]

theorem spareRounds_of_le {most : Option Nat} {count : Nat} (h : most.any (· ≤ count) = true)
    (fuel : Nat) : spareRounds most count fuel = 0 := by
  cases most with
  | none => simp at h
  | some m =>
    have hm : m ≤ count := by simpa using h
    simp [spareRounds, hm]

theorem spareRounds_succ {most : Option Nat} {count : Nat} (h : most.any (· ≤ count) = false)
    (fuel : Nat) : spareRounds most count (fuel + 1) = spareRounds most (count + 1) fuel + 1 := by
  cases most with
  | none => rfl
  | some m =>
    have hm : count < m := by simpa using h
    simp only [spareRounds, Option.map_some, Option.getD_some]
    omega

/-- A possessive repetition that has all its rounds, or has begun its last one here, stays here. -/
theorem furtherRounds_of_full {r : Resumption} {body : State → Nat → Next → Outcome}
    {most : Option Nat} {count : Nat} {last : Option Nat} {s : State}
    (h : (most.any (· ≤ count) || last == some s.pos) = true) (fuel : Nat) :
    furtherRounds r body (spareRounds most count fuel) last s = s := by
  rcases Bool.or_eq_true_iff.mp h with hmost | hlast
  · rw [spareRounds_of_le hmost]
    rfl
  · cases spareRounds most count fuel with
    | zero => rfl
    | succ fuel => rw [furtherRounds, if_pos hlast]

section Rounds

variable {body : State → Nat → Next → Outcome}
  (hbody : ∀ next s pos, IsTotal next → body s pos next = (body s pos stop).andThen next)
include hbody

/-- Once a greedy repetition has the rounds it must have, the rounds that it takes before the end
are those of a possessive one. -/
theorem rounds_stop {least : Nat} (inLoop : Bool) (most : Option Nat) (fuel : Nat) {count : Nat}
    (hcount : least ≤ count) (last : Option Nat) (s : State) (pos : Nat) :
    rounds body false inLoop least most stop fuel count last s pos =
      ⟨true, furtherRounds .began body (spareRounds most count fuel) last { s with pos }⟩ := by
  induction fuel generalizing count last s pos with
  | zero =>
    rw [spareRounds_zero]
    rfl
  | succ fuel ih =>
    have hrest : IsTotal (rounds body false inLoop least most stop fuel (count + 1) (some pos)) :=
      ⟨fun s pos => by rw [ih (by omega)], fun s pos => by rw [ih (by omega), ih (by omega)]⟩
    rw [rounds]
    simp only [hbody _ _ _ hrest, Nat.not_lt.mpr hcount, if_false, Bool.false_eq_true]
    cases hfull : (most.any (· ≤ count) || last == some pos) with
    | true =>
      rw [furtherRounds_of_full hfull]
      rfl
    | false =>
      obtain ⟨hmost, hlast⟩ := Bool.or_eq_false_iff.mp hfull
      simp only [spareRounds_succ hmost, furtherRounds, hlast, Bool.false_eq_true, if_false]
      cases hround : (body { s with pos } pos stop).matched with
      | false =>
        rw [andThen_of_failed hround, orElse_of_failed hround]
        rfl
      | true =>
        rw [andThen_of_matched hround, ih (by omega)]
        rfl

end Rounds

/-- Two tries end alike: they leave the same marks, and if they match, at the same place. -/
structure Outcome.Alike (a b : Outcome) : Prop where
  /-- Both match, or both fail. -/
  matched : a.matched = b.matched
  /-- The marks are the same. -/
  marks : a.state.SameMarks b.state
  /-- A match ends at the same place. -/
  pos : a.matched = true → a.state.pos = b.state.pos

theorem Outcome.Alike.refl (o : Outcome) : o.Alike o := ⟨rfl, .refl _, fun _ => rfl⟩

theorem alike_failed {s t : State} (h : s.SameMarks t) : Outcome.Alike ⟨false, s⟩ ⟨false, t⟩ :=
  ⟨rfl, h, by simp⟩

/-- Before the end a greedy repetition of a single character keeps all that it can take. -/
theorem fewer_stop (text : Array Char) (inLoop : Bool) (before : State) (base more : Nat)
    (s : State) :
    fewer text inLoop none before base stop more s = ⟨true, { s with pos := base + more }⟩ := by
  cases more <;> rfl

/-- So for single characters the two repetitions never differ. -/
theorem runSingle_possessive (text : Array Char) (inLoop : Bool) (lead : Option Nat) (least : Nat)
    (most : Option Nat) (c : Single) (s : State) (pos : Nat) (next : Next) :
    (runSingle text inLoop lead .possessive least most c s pos next).Alike
      (((runSingle text inLoop none .greedy least most c { s with pos } pos stop).orElse
        (failAt pos)).andThen next) := by
  unfold runSingle
  simp only [fewer_stop]
  split
  · exact alike_failed ⟨rfl, rfl⟩
  · split
    · exact alike_failed ⟨rfl, rfl⟩
    · rename_i hcount
      rw [Nat.add_assoc, Nat.add_sub_cancel' (Nat.not_lt.mp hcount)]
      exact .refl _

theorem leadCode_nil (outer : Option Nat) : leadCode [] outer = outer := by
  simp [leadCode, firstStep]

/-- A greedy repetition that must have at most one round takes, before the end, the rounds of a
possessive one. -/
theorem rounds_stop_orElse {body : State → Nat → Next → Outcome}
    (hbody : ∀ next s pos, IsTotal next → body s pos next = (body s pos stop).andThen next)
    {least : Nat} (hleast : least ≤ 1) (inLoop : Bool) (most : Option Nat) (fuel : Nat) (s : State)
    (pos : Nat) :
    (rounds body false inLoop least most stop (least + fuel) 0 none s pos).orElse (failAt pos) =
      ((neededRounds body least { s with pos }).orElse (failAt pos)).andThen fun s _ =>
        ⟨true, furtherRounds .began body (spareRounds most least fuel) none s⟩ := by
  rcases Nat.le_one_iff_eq_zero_or_eq_one.mp hleast with rfl | rfl
  · rw [rounds_stop hbody _ _ _ (Nat.le_refl 0), Nat.zero_add]
    rfl
  · have hrest : IsTotal (rounds body false inLoop 1 most stop fuel 1 none) :=
      ⟨fun s pos => by rw [rounds_stop hbody _ _ _ (Nat.le_refl 1)], fun s pos => by
        rw [rounds_stop hbody _ _ _ (Nat.le_refl 1), rounds_stop hbody _ _ _ (Nat.le_refl 1)]⟩
    rw [Nat.add_comm, rounds]
    simp only [Nat.zero_lt_one, if_true, Nat.zero_add, hbody _ _ _ hrest, neededRounds]
    cases hround : (body { s with pos } pos stop).matched with
    | false =>
      rw [andThen_of_failed hround, andThen_of_failed hround, orElse_of_failed hround]
      rfl
    | true =>
      rw [andThen_of_matched hround, andThen_of_matched hround,
        rounds_stop hbody _ _ _ (Nat.le_refl 1)]
      rfl

/-- A possessive repetition that must have at most one round is the greedy one of which only the
first match is tried, if it stands inside a repetition or keeps no text. -/
theorem possessive_alike_atomic {least : Nat} (hleast : least ≤ 1) {inLoop : Bool}
    {body : List Step} (hkeeps : inLoop = true ∨ keepNone body = true) (text : Array Char)
    (lead most : Option Nat) (s : State) (pos : Nat) (next : Next) :
    (runStep .began text inLoop lead (.many .possessive least most body) s pos next).Alike
      (runStep .began text inLoop lead (.atomic [.many .greedy least most body]) s pos next) := by
  have hatomic : runStep .began text inLoop lead (.atomic [.many .greedy least most body]) s pos
      next = ((runStep .began text inLoop none (.many .greedy least most body) { s with pos } pos
        stop).orElse (failAt pos)).andThen next := by
    simp only [runStep, runSteps, leadCode_nil]
  rw [hatomic]
  cases hsingle : single? body with
  | some c =>
    simp only [runStep, hsingle]
    exact runSingle_possessive text inLoop lead least most c s pos next
  | none =>
    have hstop : ∀ s pos, runSteps .began text inLoop none body s pos stop =
        runSteps .began text true none body s pos stop := by
      rcases hkeeps with rfl | hnone
      · exact fun _ _ => rfl
      · exact fun s pos => (unmarking_runSteps .began text body hnone none leavesMarks_stop pos
          (.refl s) inLoop).2
    simp only [runStep, hsingle]
    rw [rounds_stop_orElse (fun next s pos hnext => runSteps_eq_andThen hnext _ _ _ _ _ s pos)
      hleast, andThen_andThen, ← neededRounds_congr hstop]
    simp only [← furtherRounds_congr hstop]
    exact .refl _

/-- So a pattern that starts with the one matches the same texts if it starts with the other. -/
theorem matchesAll_possessive {least : Nat} (hleast : least ≤ 1) {body : List Step}
    (hkeeps : keepNone body = true) (most : Option Nat) (rest : List Step) (groups shortest : Nat)
    (text : Array Char) :
    (Pattern.mk (.many .possessive least most body :: rest) groups shortest .began).matchesAll
        text =
      (Pattern.mk (.atomic [.many .greedy least most body] :: rest) groups shortest
        .began).matchesAll text := by
  simp only [matchesAll, runAll, runAt, runSteps]
  split
  · rfl
  · exact (possessive_alike_atomic hleast (.inr hkeeps) text _ most _ 0 _).matched

-- By the other rule the rounds of `(?:ab?c)++` end behind the first letter of one that fails.
example :
    let steps : List Step := [.many .possessive 1 none [.one (.literal .exact 97),
      .many .greedy 0 (some 1) [.one (.literal .exact 98)], .one (.literal .exact 99)]]
    (Pattern.mk steps 0 2 .began).matchesAll #['a', 'c', 'a'] = false ∧
      (Pattern.mk steps 0 2 .stopped).matchesAll #['a', 'c', 'a'] = true := by
  cbv

end LabelTally.Pattern
