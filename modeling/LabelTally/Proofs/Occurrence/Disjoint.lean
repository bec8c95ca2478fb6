import LabelTally.Proofs.Occurrence.Comparison

/-!
# Occurrences that do not overlap

Where a needle overlaps itself, there are many ways to choose occurrences that do not overlap. The
one that is found takes the first occurrence, then the first one behind its end, and so on. It is
the only choice in which every occurrence that is left out begins inside a chosen one that begins
before it. This is said of any places with a property, so that what is left after the first choice
is a case of the same kind.
-/

namespace LabelTally.Occurrence

/-- The places are chosen from those with a property, each at least `m` behind the one before, and
so that a place that is left out is less than `m` behind a chosen one. -/
structure IsLeftmost (P : Nat → Prop) (m : Nat) (ps : List Nat) : Prop where
  /-- Chosen places have the property. -/
  holds : ∀ p ∈ ps, P p
  /-- Each is at least `m` behind the one before. -/
  apart : ps.IsChain fun p q => p + m ≤ q
  /-- A place with the property is chosen, or a chosen one comes shortly before it. -/
  covered : ∀ p, P p → p ∈ ps ∨ ∃ q ∈ ps, q < p ∧ p < q + m

namespace IsLeftmost

variable {P : Nat → Prop} {m p : Nat} {ps qs : List Nat}

/-- Nothing is chosen if there is nothing to choose from. -/
theorem of_forall_not (hnone : ∀ p, ¬P p) : IsLeftmost P m [] where
  holds := by simp
  apart := .nil
  covered := fun p hp => absurd hp (hnone p)

/-- The first place is chosen together with a choice from those at least `m` behind it. -/
theorem cons (hfirst : IsLeast {q | P q} p) (h : IsLeftmost (fun q => p + m ≤ q ∧ P q) m ps) :
    IsLeftmost P m (p :: ps) where
  holds := List.forall_mem_cons.mpr ⟨hfirst.1, fun q hq => (h.holds q hq).2⟩
  apart := List.isChain_cons.mpr ⟨fun q hq => (h.holds q (List.mem_of_mem_head? hq)).1, h.apart⟩
  covered := fun q hq => by
    have hle : p ≤ q := hfirst.2 hq
    by_cases hpq : q = p
    · exact Or.inl (hpq ▸ List.mem_cons_self)
    · by_cases hnear : q < p + m
      · exact Or.inr ⟨p, List.mem_cons_self, by omega, hnear⟩
      · rcases h.covered q ⟨by omega, hq⟩ with hmem | ⟨q', hq', hlt, hnear'⟩
        · exact Or.inl (List.mem_cons_of_mem p hmem)
        · exact Or.inr ⟨q', List.mem_cons_of_mem p hq', hlt, hnear'⟩

/-- Every place is at least `m` behind the first. -/
theorem add_le_of_mem (h : IsLeftmost P m (p :: ps)) {q : Nat} (hq : q ∈ ps) : p + m ≤ q := by
  have htrans : IsTrans Nat fun p q => p + m ≤ q := ⟨fun a b c hab hbc => by omega⟩
  exact List.rel_of_pairwise_cons (List.isChain_iff_pairwise.mp h.apart) hq

/-- The first chosen place is the first with the property. -/
theorem isLeast (h : IsLeftmost P m (p :: ps)) : IsLeast {q | P q} p := by
  have hmember : ∀ q ∈ p :: ps, p ≤ q := by
    refine List.forall_mem_cons.mpr ⟨Nat.le_refl p, fun q hq => ?_⟩
    have hle := h.add_le_of_mem hq
    omega
  refine ⟨h.holds p List.mem_cons_self, fun q hq => ?_⟩
  rcases h.covered q hq with hmem | ⟨q', hq', hlt, -⟩
  · exact hmember q hmem
  · exact (hmember q' hq').trans hlt.le

/-- The others are a choice from the places at least `m` behind the first. -/
theorem tail (hm : 0 < m) (h : IsLeftmost P m (p :: ps)) :
    IsLeftmost (fun q => p + m ≤ q ∧ P q) m ps where
  holds := fun q hq => ⟨h.add_le_of_mem hq, h.holds q (List.mem_cons_of_mem p hq)⟩
  apart := (List.isChain_cons.mp h.apart).2
  covered := fun q hq => by
    obtain ⟨hbehind, hq⟩ := hq
    rcases h.covered q hq with hmem | ⟨q', hq', hlt, hnear⟩
    · rcases List.mem_cons.mp hmem with rfl | hmem
      · omega
      · exact Or.inl hmem
    · rcases List.mem_cons.mp hq' with rfl | hq'
      · omega
      · exact Or.inr ⟨q', hq', hlt, hnear⟩

/-- Something is chosen if there is something to choose from. -/
theorem ne_nil (h : IsLeftmost P m ps) (hp : P p) : ps ≠ [] := by
  rintro rfl
  simpa using h.covered p hp

/-- There is only one such choice. -/
theorem unique (hm : 0 < m) (h : IsLeftmost P m ps) (h' : IsLeftmost P m qs) : ps = qs := by
  induction ps generalizing P qs with
  | nil =>
    cases qs with
    | nil => rfl
    | cons q qs => exact absurd rfl (h.ne_nil (h'.holds q List.mem_cons_self))
  | cons p ps ih =>
    cases qs with
    | nil => exact absurd rfl (h'.ne_nil (h.holds p List.mem_cons_self))
    | cons q qs =>
      obtain rfl : p = q := h.isLeast.unique h'.isLeast
      rw [ih (h.tail hm) (h'.tail hm)]

end IsLeftmost

variable {α : Type} [BEq α]

namespace Needle

/-- The elements from a position on equal the needle. -/
def EqualsAt (n : Needle α) (haystack : Array α) (p : Nat) : Prop :=
  (haystack.extract p (p + n.length) == n.items) = true

/-- Searching again and again, each time from the end of what was found last, until nothing is
found. -/
inductive FindRun (n : Needle α) (haystack : Array α) : Nat → List Nat → Prop
  /-- Nothing is found from a position on. -/
  | done {pos : Nat} (hsearch : n.search haystack pos = .ok none) : FindRun n haystack pos []
  /-- The needle is found, and searched for behind its end. -/
  | found {pos p : Nat} {ps : List Nat} (hsearch : n.search haystack pos = .ok (some p))
    (hrest : FindRun n haystack (p + n.length) ps) : FindRun n haystack pos (p :: ps)

variable [PartialEquivBEq α] {n : Needle α} {haystack : Array α} {pos p : Nat}

omit [PartialEquivBEq α] in
/-- A needle that equals elements ends with them. -/
theorem EqualsAt.add_length_le (h : n.EqualsAt haystack p) : p + n.length ≤ haystack.size := by
  have hn := n.nonempty
  obtain ⟨x, y, hx, -⟩ := (extract_beq_iff haystack n.items p).mp h (n.items.size - 1) (by omega)
  have hlt := (Array.getElem?_eq_some_iff.mp hx).1
  rw [length]
  omega

/-- A search gives the first position from its start on where elements equal the needle, or none if
there is none. -/
theorem search_first (n : Needle α) (haystack : Array α) (start : Nat) :
    (n.search haystack start = .ok none ∧ ∀ q, ¬(start ≤ q ∧ n.EqualsAt haystack q)) ∨
      ∃ p : Nat, n.search haystack start = .ok (some (p : Int)) ∧
        IsLeast {q | start ≤ q ∧ n.EqualsAt haystack q} p := by
  have hn : 0 < (codedNeedle n.items).size := by
    rw [size_codedNeedle]
    exact n.nonempty
  obtain ⟨answer, hsearch, hfirst⟩ := search_isFirst (codedHaystack haystack) hn start
  obtain ⟨hsome, hnone⟩ := hfirst.isLeast
  simp only [occursAt_coded_iff] at hsome hnone
  rw [borderTable_coded, search_coded] at hsearch
  cases answer with
  | none => exact Or.inl ⟨hsearch, fun q hq => hnone.mp rfl q hq.1 hq.2⟩
  | some p => exact Or.inr ⟨p, hsearch, (hsome p).mp rfl⟩

/-- Each search of a run is for the first occurrence from its start on, so a run chooses from left
to right. -/
theorem FindRun.isLeftmost {ps : List Nat} (h : FindRun n haystack pos ps) :
    IsLeftmost (fun q => pos ≤ q ∧ n.EqualsAt haystack q) n.length ps := by
  induction h with
  | @done pos hsearch =>
    rcases n.search_first haystack pos with ⟨-, hnone⟩ | ⟨p, hfound, -⟩
    · exact .of_forall_not hnone
    · rw [hsearch] at hfound
      cases hfound
  | @found pos p ps hsearch hrest ih =>
    rcases n.search_first haystack pos with ⟨hnone, -⟩ | ⟨p', hfound, hleast⟩
    · rw [hsearch] at hnone
      cases hnone
    · obtain rfl : p = p' := by
        rw [hsearch] at hfound
        simpa using hfound
      have hbehind : ∀ q, (p + n.length ≤ q ∧ pos ≤ q ∧ n.EqualsAt haystack q) ↔
          p + n.length ≤ q ∧ n.EqualsAt haystack q := by
        intro q
        have hpos : pos ≤ p := hleast.1.1
        exact and_congr_right fun hq => and_iff_right (by omega)
      refine .cons hleast ?_
      simpa only [hbehind] using ih

/-- What is found from a position on is what searching again and again finds. -/
theorem findAllFrom_run (n : Needle α) (haystack : Array α) (pos : Nat) :
    FindRun n haystack pos (n.findAllFrom haystack pos) := by
  rcases n.search_first haystack pos with ⟨hsearch, -⟩ | ⟨p, hsearch, hleast⟩
  · have hfind : n.find? haystack pos = none := by rw [find?, hsearch]
    rw [findAllFrom, hfind]
    exact .done hsearch
  · have hfind : n.find? haystack pos = some p := by
      rw [find?, hsearch]
      rfl
    have hpos : pos ≤ p := hleast.1.1
    have hend := hleast.1.2.add_length_le
    have hn : 0 < n.length := n.nonempty
    rw [findAllFrom, hfind]
    dsimp only
    rw [dif_pos ⟨hpos, by omega⟩]
    exact .found hsearch (findAllFrom_run n haystack (p + n.length))
termination_by haystack.size - pos

/-- Searching for all occurrences ends, with a list of occurrences of which each is at least the
length of the needle behind the one before, and so that every occurrence is listed or begins inside
a listed one that begins before it. No other list is of this kind. -/
theorem findAll_isLeftmost (n : Needle α) (haystack : Array α) :
    FindRun n haystack 0 (n.findAll haystack) ∧
      ∀ ps, IsLeftmost (n.EqualsAt haystack) n.length ps ↔ ps = n.findAll haystack := by
  have hrun := findAllFrom_run n haystack 0
  have hleftmost := hrun.isLeftmost
  simp only [Nat.zero_le, true_and] at hleftmost
  refine ⟨hrun, fun ps => ⟨fun h => h.unique n.nonempty hleftmost, ?_⟩⟩
  rintro rfl
  exact hleftmost

/-- A needle that overlaps itself stands at four positions, of which two are found. The other two do
not overlap either, but the first occurrence does not begin inside them. -/
theorem findAll_isLeftmost_overlaps :
    FindRun ⟨#[1, 1], by decide⟩ #[1, 1, 1, 1, 1] 0 [0, 2] ∧
      IsLeftmost (EqualsAt ⟨#[1, 1], by decide⟩ #[1, 1, 1, 1, 1]) 2 [0, 2] ∧
      ¬IsLeftmost (EqualsAt ⟨#[1, 1], by decide⟩ #[1, 1, 1, 1, 1]) 2 [1, 3] := by
  have hfound : findAll ⟨#[1, 1], by decide⟩ #[1, 1, 1, 1, 1] = [0, 2] := by cbv
  obtain ⟨hrun, hiff⟩ := findAll_isLeftmost ⟨#[1, 1], by decide⟩ #[1, 1, 1, 1, 1]
  rw [hfound] at hrun hiff
  exact ⟨hrun, (hiff [0, 2]).mpr rfl, fun h => absurd ((hiff [1, 3]).mp h) (by decide)⟩

end Needle

end LabelTally.Occurrence
