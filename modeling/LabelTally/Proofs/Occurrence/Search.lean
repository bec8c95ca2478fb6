import LabelTally.Occurrence.Needle
import LabelTally.Proofs.Occurrence.Border

/-!
# Searching finds first occurrences

A search with the border table of its needle ends without a fault and gives the first occurrence at
or after its start. While it runs, the matched elements stand right before its position, and no
occurrence begins before them: falling back through the table keeps both.
-/

namespace LabelTally.Occurrence

variable {α : Type}

/-- The needle stands at a position of the sequence. -/
def OccursAt (needle xs : List α) (p : Nat) : Prop := needle <+: xs.drop p

instance [DecidableEq α] (needle xs : List α) (p : Nat) : Decidable (OccursAt needle xs p) :=
  inferInstanceAs (Decidable (needle <+: xs.drop p))

/-- An occurrence agrees with the needle position by position. -/
theorem occursAt_iff_standsAt {needle xs : List α} {p : Nat} :
    OccursAt needle xs p ↔ StandsAt needle xs needle.length p := by
  rw [OccursAt, List.prefix_iff_getElem?]
  constructor
  · intro h j hj
    rw [← List.getElem?_drop, h j hj, List.getElem?_eq_getElem hj]
  · intro h j hj
    rw [List.getElem?_drop, h j hj, List.getElem?_eq_getElem hj]

/-- An occurrence ends inside the sequence. -/
theorem OccursAt.add_length_le {needle xs : List α} {p : Nat} (h : OccursAt needle xs p)
    (hn : 0 < needle.length) : p + needle.length ≤ xs.length := by
  have hle := h.length_le
  simp only [List.length_drop] at hle
  omega

/-- An occurrence in one part of a sequence is an occurrence in the whole. -/
theorem OccursAt.append {needle xs : List α} {p : Nat} (h : OccursAt needle xs p)
    (hn : 0 < needle.length) (before after : List α) :
    OccursAt needle (before ++ xs ++ after) (before.length + p) := by
  have hle := h.add_length_le hn
  rw [OccursAt, List.append_assoc, List.drop_length_add_append,
    List.drop_append_of_le_length (by omega)]
  exact h.trans (List.prefix_append _ _)

/-- A needle does not stand across the end of a part whose last element it lacks. -/
theorem occursAt_append_iff {needle body rest : List α} {b : α} {p : Nat}
    (hn : 0 < needle.length) (hb : b ∉ needle) :
    OccursAt needle (body ++ [b] ++ rest) p ↔
      OccursAt needle (body ++ [b]) p ∨
        (body ++ [b]).length ≤ p ∧ OccursAt needle rest (p - (body ++ [b]).length) := by
  constructor
  · intro h
    by_cases hp : (body ++ [b]).length ≤ p
    · refine Or.inr ⟨hp, ?_⟩
      rw [OccursAt, List.drop_append, List.drop_eq_nil_of_le hp, List.nil_append] at h
      exact h
    · left
      by_cases hfits : p + needle.length ≤ (body ++ [b]).length
      · rw [OccursAt, List.drop_append_of_le_length (by omega)] at h
        exact List.prefix_of_prefix_length_le h (List.prefix_append _ _)
          (by rw [List.length_drop]; omega)
      · -- The last element of the first part would be one of the needle.
        have hlen : (body ++ [b]).length = body.length + 1 := by simp
        have hat := occursAt_iff_standsAt.mp h (body.length - p) (by omega)
        rw [show p + (body.length - p) = body.length by omega, List.append_assoc,
          List.getElem?_append_right (by omega)] at hat
        simp only [Nat.sub_self, List.singleton_append, List.getElem?_cons_zero] at hat
        exact absurd (List.mem_of_getElem? hat.symm) hb
  · rintro (h | ⟨hp, h⟩)
    · simpa using h.append hn [] rest
    · have := h.append hn (body ++ [b]) []
      rwa [List.append_nil, show (body ++ [b]).length + (p - (body ++ [b]).length) = p by omega]
        at this

/-- What a search from a start has to answer: the first occurrence, or none if there is none. -/
def IsFirst (needle xs : List α) (start : Nat) : Option Nat → Prop
  | some p => start ≤ p ∧ OccursAt needle xs p ∧ ∀ q, start ≤ q → OccursAt needle xs q → p ≤ q
  | none => ∀ q, start ≤ q → ¬OccursAt needle xs q

/-- A search has one right answer. -/
theorem IsFirst.unique {needle xs : List α} {start : Nat} {r r' : Option Nat}
    (h : IsFirst needle xs start r) (h' : IsFirst needle xs start r') : r = r' := by
  cases r with
  | none =>
    cases r' with
    | none => rfl
    | some p => exact absurd h'.2.1 (h p h'.1)
  | some p =>
    cases r' with
    | none => exact absurd h.2.1 (h' p h.1)
    | some p' =>
      have hle := h.2.2 p' h'.1 h'.2.1
      have hge := h'.2.2 p h.1 h.2.1
      rw [Nat.le_antisymm hle hge]

/-- The first occurrence in what follows a position is the first one from there on. -/
theorem IsFirst.of_drop {needle xs : List α} {pos : Nat} {r : Option Nat}
    (h : IsFirst needle (xs.drop pos) 0 r) : IsFirst needle xs pos (r.map (pos + ·)) := by
  have hshift : ∀ q, OccursAt needle (xs.drop pos) q ↔ OccursAt needle xs (pos + q) := by
    intro q
    rw [OccursAt, OccursAt, List.drop_drop]
  cases r with
  | none =>
    intro q hq ho
    rw [show q = pos + (q - pos) by omega, ← hshift] at ho
    exact h (q - pos) (by omega) ho
  | some p =>
    show pos ≤ pos + p ∧ OccursAt needle xs (pos + p) ∧
      ∀ q, pos ≤ q → OccursAt needle xs q → pos + p ≤ q
    refine ⟨by omega, (hshift p).mp h.2.1, fun q hq ho => ?_⟩
    rw [show q = pos + (q - pos) by omega, ← hshift] at ho
    have hle := h.2.2 (q - pos) (by omega) ho
    omega

/-- The state of a search: the matched elements stand right before the position, after the start,
and no occurrence begins before them. -/
structure Searching (needle xs : List α) (start pos matched : Nat) : Prop where
  /-- The needle is not matched yet. -/
  open_end : matched < needle.length
  /-- The matched elements begin at or after the start. -/
  after_start : start + matched ≤ pos
  /-- They stand before the position. -/
  stands : StandsAt needle xs matched (pos - matched)
  /-- Occurrences begin with them or later. -/
  none_before : ∀ q, start ≤ q → OccursAt needle xs q → pos ≤ q + matched

namespace Searching

variable {needle xs : List α} {start pos matched : Nat}

/-- A search begins with nothing matched. -/
theorem initial (hn : 0 < needle.length) (start : Nat) : Searching needle xs start start 0 where
  open_end := hn
  after_start := by omega
  stands := fun j hj => by omega
  none_before := fun q hq _ => by omega

/-- An element that agrees is matched as well. -/
theorem advance (h : Searching needle xs start pos matched) (hx : xs[pos]? = needle[matched]?)
    (hm : matched + 1 < needle.length) : Searching needle xs start (pos + 1) (matched + 1) where
  open_end := hm
  after_start := by have := h.after_start; omega
  stands := by
    have hle := h.after_start
    rw [show pos + 1 - (matched + 1) = pos - matched by omega, standsAt_succ,
      show pos - matched + matched = pos by omega]
    exact ⟨h.stands, hx⟩
  none_before := fun q hq ho => by
    have := h.none_before q hq ho
    omega

/-- The last element that agrees completes the first occurrence. -/
theorem complete (h : Searching needle xs start pos matched) (hx : xs[pos]? = needle[matched]?)
    (hm : matched + 1 = needle.length) :
    IsFirst needle xs start (some (pos - matched)) := by
  have hle := h.after_start
  refine ⟨by omega, ?_, fun q hq ho => ?_⟩
  · rw [occursAt_iff_standsAt, ← hm, standsAt_succ, show pos - matched + matched = pos by omega]
    exact ⟨h.stands, hx⟩
  · have := h.none_before q hq ho
    omega

/-- After an element that does not agree no occurrence begins with the matched elements. -/
theorem mismatch (h : Searching needle xs start pos matched) (hx : xs[pos]? ≠ needle[matched]?)
    {q : Nat} (hq : start ≤ q) (ho : OccursAt needle xs q) : pos < q + matched := by
  have hle := h.none_before q hq ho
  have hne : pos ≠ q + matched := by
    rintro rfl
    exact hx (occursAt_iff_standsAt.mp ho matched h.open_end)
  omega

/-- An element that does not agree with the first one is left behind. -/
theorem skip (h : Searching needle xs start pos 0) (hx : xs[pos]? ≠ needle[0]?) :
    Searching needle xs start (pos + 1) 0 where
  open_end := h.open_end
  after_start := by have := h.after_start; omega
  stands := fun j hj => by omega
  none_before := fun q hq ho => by
    have := h.mismatch hx hq ho
    omega

/-- Otherwise the table tells how much is still matched. -/
theorem fallBack {table : Array Nat} (ht : HoldsBorders needle table)
    (h : Searching needle xs start pos matched) (hx : xs[pos]? ≠ needle[matched]?)
    (hm : 0 < matched) {shorter : Nat} (hentry : table[matched - 1]? = some shorter) :
    Searching needle xs start pos shorter := by
  obtain ⟨hlt, hborder, hbest⟩ := ht.entry hm hentry
  have hend := h.open_end
  have hle := h.after_start
  refine ⟨by omega, by omega, h.stands.shorten hborder (by omega) (by omega), fun q hq ho => ?_⟩
  have hafter := h.mismatch hx hq ho
  by_cases hqp : q ≤ pos
  · -- What lies between an earlier occurrence and the position is a border of what is matched.
    have hstands : StandsAt needle xs (pos - q) (pos - (pos - q)) := by
      rw [show pos - (pos - q) = q by omega]
      exact (occursAt_iff_standsAt.mp ho).mono (by omega)
    have hover := h.stands.overlap hstands (by omega) (by omega)
    have := hbest (pos - q) (by omega) hover
    omega
  · omega

/-- At the end of the sequence no occurrence is left. -/
theorem exhausted (h : Searching needle xs start pos matched) (hp : xs.length ≤ pos) :
    IsFirst needle xs start none := by
  intro q hq ho
  have hend := h.open_end
  have := h.none_before q hq ho
  have := ho.add_length_le (by omega)
  omega

end Searching

variable [BEq α]

section Steps

variable {haystack needle : Array α} {table : Array Nat} {pos matched budget : Nat} {x y : α}

/-- A position of an array given as an integer. -/
theorem elementAt?_natCast {β : Type} (xs : Array β) (i : Nat) :
    elementAt? xs (i : Int) = xs[i]? := by
  rw [elementAt?, if_pos (by omega), Int.toNat_natCast]

/-- An entry of a table of integers. -/
theorem elementAt?_map_pred (hm : 0 < matched) :
    elementAt? (table.map Int.ofNat) ((matched : Int) - 1) =
      table[matched - 1]?.map Int.ofNat := by
  rw [show (matched : Int) - 1 = ((matched - 1 : Nat) : Int) by omega, elementAt?_natCast,
    Array.getElem?_map]

/-- A search past the end finds nothing. -/
theorem searchFrom_past (hp : haystack.size ≤ pos) :
    searchFrom haystack needle (table.map Int.ofNat) pos matched budget = .ok none := by
  rw [searchFrom.eq_def, if_neg (by omega)]

/-- What a search does at a position with an element, before it goes on. -/
theorem searchFrom_at (hx : haystack[pos]? = some x) (hy : needle[matched]? = some y) :
    searchFrom haystack needle (table.map Int.ofNat) pos matched budget =
      if x == y then
        if matched + 1 = needle.size then .ok (some ((pos : Int) + 1 - needle.size))
        else searchFrom haystack needle (table.map Int.ofNat) (pos + 1 : Nat) (matched + 1 : Nat)
          (table.size + 1)
      else if matched = 0 then
        searchFrom haystack needle (table.map Int.ofNat) (pos + 1 : Nat) (0 : Nat) (table.size + 1)
      else
        match table[matched - 1]?, budget with
        | none, _ => .error .outsideTable
        | some _, 0 => .error .circle
        | some shorter, budget + 1 =>
          searchFrom haystack needle (table.map Int.ofNat) pos shorter budget := by
  have hp : pos < haystack.size := (Array.getElem?_eq_some_iff.mp hx).1
  rw [searchFrom.eq_def haystack needle _ pos matched budget, if_pos (by omega),
    elementAt?_natCast, hx]
  dsimp only
  rw [elementAt?_natCast, hy]
  dsimp only
  rw [Array.size_map]
  by_cases hxy : (x == y) = true
  · rw [if_pos hxy, if_pos hxy]
    by_cases hm : matched + 1 = needle.size
    · rw [if_pos hm, if_pos (by omega)]
    · rw [if_neg hm, if_neg (by omega)]
      rfl
  · rw [if_neg hxy, if_neg hxy]
    by_cases hm : matched = 0
    · rw [if_pos hm, if_pos (by omega)]
      rfl
    · rw [if_neg hm, if_neg (by omega), elementAt?_map_pred (by omega)]
      cases table[matched - 1]? with
      | none => rfl
      | some shorter => cases budget <;> rfl

end Steps

variable [LawfulBEq α]

/-- A search in a right state ends with the right answer. The budget for falling back at one
position suffices because each fall shortens what is matched. -/
theorem searchFrom_isFirst {haystack needle : Array α} {table : Array Nat} {start : Nat}
    (ht : HoldsBorders needle.toList table) (hsize : table.size = needle.size)
    (pos matched budget : Nat)
    (h : Searching needle.toList haystack.toList start pos matched) (hbudget : matched ≤ budget) :
    ∃ answer, searchFrom haystack needle (table.map Int.ofNat) pos matched budget =
        .ok (answer.map Int.ofNat) ∧ IsFirst needle.toList haystack.toList start answer := by
  have hend := h.open_end
  simp only [Array.length_toList] at hend
  by_cases hp : haystack.size ≤ pos
  · exact ⟨none, searchFrom_past hp, h.exhausted (by simpa only [Array.length_toList] using hp)⟩
  · have hx : haystack[pos]? = some haystack[pos] := Array.getElem?_eq_getElem (by omega)
    have hy : needle[matched]? = some needle[matched] := Array.getElem?_eq_getElem hend
    rw [searchFrom_at hx hy]
    by_cases hxy : haystack[pos] = needle[matched]
    · have hagree : haystack.toList[pos]? = needle.toList[matched]? := by
        rw [Array.getElem?_toList, Array.getElem?_toList, hx, hy, hxy]
      rw [if_pos (beq_iff_eq.mpr hxy)]
      by_cases hm : matched + 1 = needle.size
      · rw [if_pos hm]
        have hle := h.after_start
        refine ⟨some (pos - matched), ?_, h.complete hagree (by simpa using hm)⟩
        rw [Option.map_some]
        congr 2
        show (pos : Int) + 1 - needle.size = ((pos - matched : Nat) : Int)
        omega
      · rw [if_neg hm]
        exact searchFrom_isFirst ht hsize (pos + 1) (matched + 1) (table.size + 1)
          (h.advance hagree (by simp only [Array.length_toList]; omega)) (by omega)
    · have hdiffer : haystack.toList[pos]? ≠ needle.toList[matched]? := by
        rw [Array.getElem?_toList, Array.getElem?_toList, hx, hy]
        exact fun he => hxy (Option.some.inj he)
      rw [if_neg fun he => hxy (beq_iff_eq.mp he)]
      by_cases hm : matched = 0
      · subst hm
        rw [if_pos rfl]
        exact searchFrom_isFirst ht hsize (pos + 1) 0 (table.size + 1) (h.skip hdiffer) (by omega)
      · rw [if_neg hm]
        obtain ⟨shorter, hentry⟩ := exists_entry table (show 0 < matched by omega) (by omega)
        have hlt := (ht.entry (by omega) hentry).1
        obtain ⟨budget, rfl⟩ : ∃ n, budget = n + 1 := ⟨budget - 1, by omega⟩
        rw [hentry]
        exact searchFrom_isFirst ht hsize pos shorter budget
          (h.fallBack ht hdiffer (by omega) hentry) (by omega)
termination_by (haystack.size - pos, budget)

/-- With the border table of its needle a search gives the first occurrence at or after its start,
without a fault. -/
theorem search_isFirst (haystack : Array α) {needle : Array α} (hn : 0 < needle.size)
    (start : Nat) :
    ∃ answer, search haystack needle ((borderTable needle).map Int.ofNat) start =
        .ok (answer.map Int.ofNat) ∧ IsFirst needle.toList haystack.toList start answer := by
  have hlen : 0 < needle.toList.length := by simpa only [Array.length_toList] using hn
  by_cases hfits : (haystack.size : Int) - start < needle.size
  · refine ⟨none, by rw [search, if_pos (Or.inr hfits)]; rfl, fun q hq ho => ?_⟩
    have hle := ho.add_length_le hlen
    simp only [Array.length_toList] at hle
    omega
  · obtain ⟨ht, hsize⟩ := borderTable_holdsBorders needle
    rw [search, if_neg (by omega)]
    exact searchFrom_isFirst ht hsize start 0 _ (Searching.initial hlen start) (by omega)

namespace Needle

variable (n : Needle α) (haystack : Array α)

omit [BEq α] [LawfulBEq α] in
/-- A needle has elements. -/
theorem length_toList_pos : 0 < n.items.toList.length := by
  simpa only [Array.length_toList] using n.nonempty

omit [BEq α] [LawfulBEq α] in
/-- A needle that stands at a position ends inside the sequence. -/
theorem add_length_le {xs : List α} {p : Nat} (h : OccursAt n.items.toList xs p) :
    p + n.length ≤ xs.length := by
  have hle := h.add_length_le n.length_toList_pos
  simpa only [Array.length_toList, Needle.length] using hle

/-- The answer of a needle is the first occurrence. -/
theorem find?_isFirst (start : Nat) :
    IsFirst n.items.toList haystack.toList start (n.find? haystack start) := by
  obtain ⟨answer, hsearch, hfirst⟩ := search_isFirst haystack n.nonempty start
  have hfind : n.find? haystack start = answer := by
    rw [find?, Needle.search, table, hsearch]
    cases answer <;> rfl
  rw [hfind]
  exact hfirst

/-- The needle occurs in a sequence when it stands at one of its positions. -/
theorem occursIn_iff :
    n.occursIn haystack = true ↔ ∃ p, OccursAt n.items.toList haystack.toList p := by
  have hfirst := n.find?_isFirst haystack 0
  rw [occursIn]
  cases hfind : n.find? haystack 0 with
  | none =>
    rw [hfind] at hfirst
    simp only [Option.isSome_none, Bool.false_eq_true, false_iff, not_exists]
    exact fun p => hfirst p (by omega)
  | some p =>
    rw [hfind] at hfirst
    simp only [Option.isSome_some, true_iff]
    exact ⟨p, hfirst.2.1⟩

end Needle

end LabelTally.Occurrence
