import LabelTally.Proofs.Pattern.Sequencing

/-!
# Steps that keep no text

Failed tries leave their marks behind, unless they are part of a repetition. Steps that keep no text
set no marks, so there is nothing to leave: they change the marks only through what follows them,
and it makes no difference whether they stand inside a repetition.
-/

namespace LabelTally.Pattern

theorem neededRounds_congr {body body' : State → Nat → Next → Outcome}
    (h : ∀ s pos, body s pos stop = body' s pos stop) (least : Nat) (s : State) :
    neededRounds body least s = neededRounds body' least s := by
  induction least generalizing s with
  | zero => rfl
  | succ least ih => simp only [neededRounds, h, ih]

theorem furtherRounds_congr {r : Resumption} {body body' : State → Nat → Next → Outcome}
    (h : ∀ s pos, body s pos stop = body' s pos stop) (fuel : Nat) (last : Option Nat)
    (s : State) : furtherRounds r body fuel last s = furtherRounds r body' fuel last s := by
  induction fuel generalizing last s with
  | zero => rfl
  | succ fuel ih => simp only [furtherRounds, h, ih]

mutual

/-- No text is kept inside the step. -/
def Step.keepsNone : Step → Bool
  | .one _ | .anchor _ | .back _ _ => true
  | .group _ _ => false
  | .scope body | .atomic body | .look _ _ body | .many _ _ _ body => keepNone body
  | .choose _ yes no => keepNone yes && keepNone no
  | .branch ways => waysKeepNone ways

/-- No text is kept inside steps. -/
def keepNone : List Step → Bool
  | [] => true
  | step :: rest => step.keepsNone && keepNone rest

/-- No text is kept inside ways. -/
def waysKeepNone : List (List Step) → Bool
  | [] => true
  | way :: ways => keepNone way && waysKeepNone ways

end

/-- Two states have the same marks. -/
structure State.SameMarks (s t : State) : Prop where
  /-- The marks are the same. -/
  marks : s.marks = t.marks
  /-- As many of them count. -/
  valid : s.valid = t.valid

theorem State.SameMarks.refl (s : State) : s.SameMarks s := ⟨rfl, rfl⟩

theorem State.SameMarks.trans {s t u : State} (h : s.SameMarks t) (h' : t.SameMarks u) :
    s.SameMarks u :=
  ⟨h.marks.trans h'.marks, h.valid.trans h'.valid⟩

theorem State.SameMarks.symm {s t : State} (h : s.SameMarks t) : t.SameMarks s :=
  ⟨h.marks.symm, h.valid.symm⟩

theorem State.SameMarks.move {s t : State} (h : s.SameMarks t) (pos : Nat) :
    State.SameMarks { s with pos } t :=
  ⟨h.marks, h.valid⟩

theorem State.undo_of_sameMarks {s t : State} (h : s.SameMarks t) (marks : Bool) :
    s.undo t marks = s := by
  cases s
  cases marks <;> simp_all [State.undo, h.marks.symm, h.valid.symm]

/-- What follows leaves the marks as they are. -/
def LeavesMarks (next : Next) : Prop := ∀ s pos, (next s pos).state.SameMarks s

theorem leavesMarks_stop : LeavesMarks stop := fun s pos => (State.SameMarks.refl s).move pos

/-- A try leaves the marks of a state as they are, and comes out the same inside a repetition and
outside of one. -/
def Unmarking (run : Bool → Outcome) (s : State) : Prop :=
  ∀ inLoop, (run inLoop).state.SameMarks s ∧ run inLoop = run true

namespace Unmarking

variable {s t before : State}

theorem failed (h : t.SameMarks s) : Unmarking (fun _ => ⟨false, t⟩) s := fun _ => ⟨h, rfl⟩

theorem undone (h : t.SameMarks s) (hbefore : before.SameMarks s) :
    Unmarking (fun b => ⟨false, t.undo before b⟩) s := by
  intro b
  simp only [State.undo_of_sameMarks (h.trans hbefore.symm)]
  exact ⟨h, trivial⟩

theorem of_leavesMarks {next : Next} (hnext : LeavesMarks next) (h : t.SameMarks s) (pos : Nat) :
    Unmarking (fun _ => next t pos) s :=
  fun _ => ⟨(hnext t pos).trans h, rfl⟩

theorem ite {run run' : Bool → Outcome} (c : Prop) [Decidable c] (h : Unmarking run s)
    (h' : Unmarking run' s) : Unmarking (fun b => if c then run b else run' b) s := by
  intro b
  by_cases hc : c
  · simpa only [if_pos hc] using h b
  · simpa only [if_neg hc] using h' b

theorem congr {run run' : Bool → Outcome} (h : Unmarking run s) (heq : ∀ b, run' b = run b) :
    Unmarking run' s := by
  obtain rfl : run' = run := funext heq
  exact h

theorem bind {run : Bool → Outcome} {f : Bool → Outcome → Outcome} (h : Unmarking run s)
    (hf : ∀ o, o.state.SameMarks s → Unmarking (fun b => f b o) s) :
    Unmarking (fun b => f b (run b)) s := by
  intro b
  simp only [(h b).2]
  exact hf (run true) (h true).1 b

theorem orElse {run : Bool → Outcome} {other : Bool → State → Outcome} (h : Unmarking run s)
    (hother : ∀ t, t.SameMarks s → Unmarking (fun b => other b t) s) :
    Unmarking (fun b => (run b).orElse (other b)) s :=
  h.bind (f := fun b o => o.orElse (other b)) fun o ho =>
    .ite _ (fun _ => ⟨ho, rfl⟩) (hother o.state ho)

theorem andThen {run : Bool → Outcome} {next : Bool → Next} (h : Unmarking run s)
    (hnext : ∀ t pos, t.SameMarks s → Unmarking (fun b => next b t pos) s) :
    Unmarking (fun b => (run b).andThen (next b)) s :=
  h.bind (f := fun b o => o.andThen (next b)) fun o ho =>
    .ite _ (hnext o.state o.state.pos ho) fun _ => ⟨ho, rfl⟩

end Unmarking

section UnmarkingParts

variable {next : Next} (hnext : LeavesMarks next) (text : Array Char) {s before : State}
include hnext

theorem unmarking_tryAt (lead : Option Nat) (pos : Nat) (hbefore : before.SameMarks s) {t : State}
    (ht : t.SameMarks s) : Unmarking (fun b => tryAt text b lead before next pos t) s :=
  .ite _ (.orElse (.of_leavesMarks hnext (ht.move pos) pos) fun _ hu => .undone hu hbefore)
    (.failed ht)

theorem unmarking_fewer (lead : Option Nat) (base more : Nat) (hbefore : before.SameMarks s)
    {t : State} (ht : t.SameMarks s) :
    Unmarking (fun b => fewer text b lead before base next more t) s := by
  induction more generalizing t with
  | zero => exact unmarking_tryAt hnext text lead base hbefore ht
  | succ more ih => exact .orElse (unmarking_tryAt hnext text lead _ hbefore ht) fun _ hu => ih hu

theorem unmarking_further (c : Single) (spare pos : Nat) (hbefore : before.SameMarks s)
    {t : State} (ht : t.SameMarks s) :
    Unmarking (fun b => further text b c before next spare pos t) s := by
  induction spare generalizing pos t with
  | zero =>
    refine .orElse (.of_leavesMarks hnext (ht.move pos) pos) fun u hu => ?_
    simp only [State.undo_of_sameMarks (hu.trans hbefore.symm)]
    exact .failed (hu.move _)
  | succ spare ih =>
    refine .orElse (.of_leavesMarks hnext (ht.move pos) pos) fun u hu => ?_
    simp only [State.undo_of_sameMarks (hu.trans hbefore.symm)]
    exact .ite _ (ih (pos + 1) (hu.move pos)) (.failed (hu.move pos))

theorem unmarking_runSingle (lead : Option Nat) (greed : Greed) (least : Nat) (most : Option Nat)
    (c : Single) (pos : Nat) {t : State} (ht : t.SameMarks s) :
    Unmarking (fun b => runSingle text b lead greed least most c t pos next) s := by
  unfold runSingle
  refine .ite _ (.failed ht) (.ite _ (.failed (ht.move _)) ?_)
  cases greed with
  | greedy => exact unmarking_fewer hnext text lead _ _ (ht.move _) (ht.move _)
  | lazy => exact unmarking_further hnext text c _ _ (ht.move _) (ht.move _)
  | possessive => exact .of_leavesMarks hnext (ht.move _) _

theorem unmarking_rounds {body : State → Nat → Next → Outcome}
    (hbody : ∀ next, LeavesMarks next → LeavesMarks fun s pos => body s pos next) (lazily : Bool)
    (least : Nat) (most : Option Nat) (fuel count : Nat) (last : Option Nat) (pos : Nat) {t : State}
    (ht : t.SameMarks s) :
    Unmarking (fun b => rounds body lazily b least most next fuel count last t pos) s := by
  induction fuel generalizing count last pos s t with
  | zero => exact .of_leavesMarks hnext ht pos
  | succ fuel ih =>
    have hrounds : ∀ count last b, rounds body lazily b least most next fuel count last =
        rounds body lazily true least most next fuel count last := fun count last b =>
      funext fun s => funext fun pos => (ih count last pos (.refl s) b).2
    have hagain : ∀ last u, u.SameMarks s → Unmarking (fun b =>
        body u pos (rounds body lazily b least most next fuel (count + 1) last)) s := by
      intro last u hu
      simp only [hrounds (count + 1) last]
      refine .of_leavesMarks (hbody _ fun s pos => ?_) hu pos
      exact (ih (count + 1) last pos (.refl s) true).1
    have hfail : ∀ u : State, u.SameMarks s → Unmarking (fun _ => failAt pos u) s :=
      fun u hu => .failed (hu.move pos)
    simp only [rounds]
    refine .ite _ (.orElse (hagain last _ (ht.move pos)) hfail) (.ite _ ?_ ?_)
    · refine .orElse (.of_leavesMarks hnext (ht.move pos) pos) fun u hu => ?_
      simp only [State.undo_of_sameMarks (hu.trans (ht.move pos).symm)]
      exact .ite _ (.failed (hu.move pos)) (.orElse (hagain _ _ (hu.move pos)) hfail)
    · refine .orElse (.ite _ (.failed (ht.move pos)) (hagain _ _ (ht.move pos))) fun u hu => ?_
      simp only [State.undo_of_sameMarks (hu.trans (ht.move pos).symm)]
      exact .orElse (.of_leavesMarks hnext (hu.move pos) pos) hfail

end UnmarkingParts

theorem sameMarks_neededRounds {body : State → Nat → Next → Outcome}
    (hbody : LeavesMarks fun s pos => body s pos stop) (least : Nat) (s : State) :
    (neededRounds body least s).state.SameMarks s := by
  induction least generalizing s with
  | zero => exact .refl s
  | succ least ih =>
    rw [neededRounds, Outcome.andThen]
    split
    · exact (ih _).trans (hbody s s.pos)
    · exact hbody s s.pos

theorem sameMarks_furtherRounds {body : State → Nat → Next → Outcome} (r : Resumption)
    (hbody : LeavesMarks fun s pos => body s pos stop) (fuel : Nat) (last : Option Nat)
    (s : State) : (furtherRounds r body fuel last s).SameMarks s := by
  induction fuel generalizing last s with
  | zero => exact .refl s
  | succ fuel ih =>
    unfold furtherRounds
    dsimp only
    split
    · exact .refl s
    · split
      · exact (ih _ _).trans (hbody s s.pos)
      · cases r with
        | began => exact .refl s
        | stopped => exact (State.SameMarks.refl s).move _

mutual

/-- A step that keeps no text leaves the marks as what follows it does, and is run alike inside a
repetition and outside of one. -/
theorem unmarking_runStep (r : Resumption) (text : Array Char) :
    (step : Step) → step.keepsNone = true → ∀ (lead : Option Nat) {next : Next},
      LeavesMarks next → ∀ (pos : Nat) {s t : State}, t.SameMarks s →
        Unmarking (fun b => runStep r text b lead step t pos next) s
  | .one _, _, lead, next, hnext, pos, s, t, ht
  | .anchor _, _, lead, next, hnext, pos, s, t, ht => by
    simp only [runStep]
    exact .ite _ (.of_leavesMarks hnext ht _) (.failed ht)
  | .back fold index, _, lead, next, hnext, pos, s, t, ht => by
    simp only [runStep]
    cases t.kept index with
    | none => exact .failed ht
    | some place => exact .ite _ (.of_leavesMarks hnext ht _) (.failed ht)
  | .group index body, hkeeps, _, _, _, _, _, _, _ => by simp [Step.keepsNone] at hkeeps
  | .scope body, hkeeps, lead, next, hnext, pos, s, t, ht => by
    simp only [runStep]
    exact unmarking_runSteps r text body (by simpa [Step.keepsNone] using hkeeps) lead hnext pos ht
  | .atomic body, hkeeps, lead, next, hnext, pos, s, t, ht => by
    have hbody := unmarking_runSteps r text body (by simpa [Step.keepsNone] using hkeeps) none
      leavesMarks_stop pos (ht.move pos)
    simp only [runStep]
    exact .andThen (.orElse hbody fun u hu => .failed (hu.move pos)) fun u pos hu =>
      .of_leavesMarks hnext hu pos
  | .look behind negated body, hkeeps, lead, next, hnext, pos, s, t, ht => by
    have hbody := unmarking_runSteps r text body (by simpa [Step.keepsNone] using hkeeps) none
      leavesMarks_stop (pos - behind.getD 0) (ht.move (pos - behind.getD 0))
    simp only [runStep]
    refine .ite _ (.ite _ (.of_leavesMarks hnext ht pos) (.failed ht)) (.ite _ ?_ ?_)
    · refine hbody.bind (f := fun b o =>
        if o.matched then ⟨false, o.state⟩ else next (o.state.undo t b) pos) fun o ho => ?_
      simp only [State.undo_of_sameMarks (ho.trans (ht.move _).symm)]
      exact .ite _ (.failed ho) (.of_leavesMarks hnext ho pos)
    · exact hbody.bind (f := fun _ o => if o.matched then next o.state pos else o) fun o ho =>
        .ite _ (.of_leavesMarks hnext ho pos) fun _ => ⟨ho, rfl⟩
  | .choose index yes no, hkeeps, lead, next, hnext, pos, s, t, ht => by
    have hboth : keepNone yes = true ∧ keepNone no = true := by
      simpa [Step.keepsNone] using hkeeps
    simp only [runStep]
    exact .ite _ (unmarking_runSteps r text yes hboth.1 _ hnext pos ht)
      (unmarking_runSteps r text no hboth.2 _ hnext pos ht)
  | .branch ways, hkeeps, lead, next, hnext, pos, s, t, ht => by
    simp only [runStep]
    exact unmarking_runWays r text ways (by simpa [Step.keepsNone] using hkeeps) hnext pos ht ht
  | .many greed least most body, hkeeps, lead, next, hnext, pos, s, t, ht => by
    have hbody : ∀ next, LeavesMarks next → ∀ s pos,
        Unmarking (fun b => runSteps r text b none body s pos next) s := fun next hnext s pos =>
      unmarking_runSteps r text body (by simpa [Step.keepsNone] using hkeeps) none hnext pos
        (.refl s)
    simp only [runStep]
    cases single? body with
    | some c => exact unmarking_runSingle hnext text lead greed least most c pos ht
    | none =>
      have hround : ∀ next, LeavesMarks next →
          LeavesMarks fun s pos => runSteps r text true none body s pos next :=
        fun next hnext s pos => (hbody next hnext s pos true).1
      have hstop : ∀ b s pos, runSteps r text b none body s pos stop =
          runSteps r text true none body s pos stop :=
        fun b s pos => (hbody stop leavesMarks_stop s pos b).2
      have hsame : ∀ b, LeavesMarks fun s pos => runSteps r text b none body s pos stop :=
        fun b s pos => (hbody stop leavesMarks_stop s pos b).1
      cases greed with
      | greedy => exact unmarking_rounds hnext hround _ _ _ _ _ _ _ (ht.move pos)
      | lazy => exact unmarking_rounds hnext hround _ _ _ _ _ _ _ (ht.move pos)
      | possessive =>
        refine .andThen (.orElse (fun b => ⟨?_, neededRounds_congr (hstop b) _ _⟩)
          fun u hu => .failed (hu.move pos)) fun u _ hu b => ⟨?_, ?_⟩
        · exact (sameMarks_neededRounds (hsame b) least _).trans (ht.move pos)
        · exact (hnext _ _).trans ((sameMarks_furtherRounds r (hsame b) _ none u).trans hu)
        · simp only [furtherRounds_congr (hstop b)]

theorem unmarking_runSteps (r : Resumption) (text : Array Char) :
    (steps : List Step) → keepNone steps = true → ∀ (lead : Option Nat) {next : Next},
      LeavesMarks next → ∀ (pos : Nat) {s t : State}, t.SameMarks s →
        Unmarking (fun b => runSteps r text b lead steps t pos next) s
  | [], _, lead, next, hnext, pos, s, t, ht => by
    simp only [runSteps]
    exact .of_leavesMarks hnext ht pos
  | step :: rest, hkeeps, lead, next, hnext, pos, s, t, ht => by
    have hboth : step.keepsNone = true ∧ keepNone rest = true := by
      simpa [keepNone] using hkeeps
    have hrest : ∀ s pos, Unmarking (fun b => runSteps r text b lead rest s pos next) s :=
      fun s pos => unmarking_runSteps r text rest hboth.2 lead hnext pos (.refl s)
    have hsame : ∀ b, (fun s pos => runSteps r text b lead rest s pos next) =
        fun s pos => runSteps r text true lead rest s pos next :=
      fun b => funext fun s => funext fun pos => (hrest s pos b).2
    refine (unmarking_runStep r text step hboth.1 (leadCode rest lead)
      (fun s pos => (hrest s pos true).1) pos ht).congr fun b => ?_
    rw [runSteps, hsame]

theorem unmarking_runWays (r : Resumption) (text : Array Char) :
    (ways : List (List Step)) → waysKeepNone ways = true → ∀ {next : Next},
      LeavesMarks next → ∀ (pos : Nat) {s t before : State}, before.SameMarks s → t.SameMarks s →
        Unmarking (fun b => runWays r text b before ways t pos next) s
  | [], _, next, hnext, pos, s, t, before, hbefore, ht => by
    simp only [runWays]
    exact .failed ht
  | way :: ways, hkeeps, next, hnext, pos, s, t, before, hbefore, ht => by
    have hboth : keepNone way = true ∧ waysKeepNone ways = true := by
      simpa [waysKeepNone] using hkeeps
    simp only [runWays]
    refine .ite _ (unmarking_runWays r text ways hboth.2 hnext pos hbefore ht) ?_
    refine .orElse (unmarking_runSteps r text way hboth.1 none hnext pos (ht.move pos)) ?_
    intro u hu
    simp only [State.undo_of_sameMarks (hu.trans hbefore.symm)]
    exact unmarking_runWays r text ways hboth.2 hnext pos hbefore hu

end

end LabelTally.Pattern
