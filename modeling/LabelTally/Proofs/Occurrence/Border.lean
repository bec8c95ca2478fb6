import LabelTally.Occurrence.Border
import Mathlib

/-!
# Border tables hold the longest borders

A border of a sequence is a proper prefix of it that is also a suffix. The table of a needle is
built by falling back through itself; every entry it gets is the length of the longest border of
its prefix. The argument compares shifted copies of the needle position by position, and the same
comparison of copies carries the search with the table.
-/

namespace LabelTally.Occurrence

variable {α : Type}

/-- The first `k` elements of the needle stand at position `p` of the sequence. -/
def StandsAt (needle xs : List α) (k p : Nat) : Prop := ∀ j < k, xs[p + j]? = needle[j]?

/-- A proper prefix of length `k` is also a suffix. -/
def IsBorder (xs : List α) (k : Nat) : Prop := k < xs.length ∧ xs.take k <:+ xs

/-- No border is longer than the border of length `k`. -/
def IsLongestBorder (xs : List α) (k : Nat) : Prop := IsBorder xs k ∧ ∀ j, IsBorder xs j → j ≤ k

/-- Fewer elements stand where more of them do. -/
theorem StandsAt.mono {needle xs : List α} {k l p : Nat} (h : StandsAt needle xs l p)
    (hk : k ≤ l) : StandsAt needle xs k p := fun j hj => h j (by omega)

/-- One more element stands at a position when the next elements agree. -/
theorem standsAt_succ {needle xs : List α} {k p : Nat} :
    StandsAt needle xs (k + 1) p ↔ StandsAt needle xs k p ∧ xs[p + k]? = needle[k]? := by
  constructor
  · intro h
    exact ⟨h.mono (by omega), h k (by omega)⟩
  · rintro ⟨hs, hx⟩ j hj
    by_cases hjk : j = k
    · rw [hjk, hx]
    · exact hs j (by omega)

/-- A start of the needle that ends where a longer one ends also ends the longer one. -/
theorem StandsAt.overlap {needle xs : List α} {k b p : Nat} (hb : StandsAt needle xs b (p - b))
    (hk : StandsAt needle xs k (p - k)) (hkb : k ≤ b) (hbp : b ≤ p) :
    StandsAt needle needle k (b - k) := by
  intro j hj
  have hlong := hb (b - k + j) (by omega)
  have hshort := hk j hj
  rw [show p - b + (b - k + j) = p - k + j by omega] at hlong
  rw [← hlong, hshort]

/-- A start of the needle that ends a longer one also stands where the longer one ends. -/
theorem StandsAt.shorten {needle xs : List α} {k b p : Nat} (hb : StandsAt needle xs b (p - b))
    (hk : StandsAt needle needle k (b - k)) (hkb : k ≤ b) (hbp : b ≤ p) :
    StandsAt needle xs k (p - k) := by
  intro j hj
  have hlong := hb (b - k + j) (by omega)
  rw [show p - b + (b - k + j) = p - k + j by omega] at hlong
  rw [hlong, hk j hj]

/-- The borders of a prefix of the needle are the starts of the needle that end it. -/
theorem isBorder_take {needle : List α} {i k : Nat} (hi : i ≤ needle.length) :
    IsBorder (needle.take i) k ↔ k < i ∧ StandsAt needle needle k (i - k) := by
  have hlen : (needle.take i).length = i := by simp only [List.length_take]; omega
  simp only [IsBorder, hlen]
  refine and_congr_right fun hk => ?_
  have htake : ((needle.take i).take k).length = k := by
    simp only [List.length_take]
    omega
  rw [List.suffix_iff_getElem?]
  simp only [hlen, htake]
  constructor
  · rintro ⟨_, h⟩ j hj
    have hget := h j (by omega)
    rw [← List.getElem?_eq_getElem, List.take_take, List.getElem?_take_of_lt (by omega),
      List.getElem?_take_of_lt (by omega)] at hget
    rw [← hget]
    congr 1
    omega
  · intro h
    refine ⟨by omega, fun j hj => ?_⟩
    rw [← List.getElem?_eq_getElem, List.take_take, List.getElem?_take_of_lt (by omega),
      List.getElem?_take_of_lt (by omega), ← h j (by omega)]
    congr 1
    omega

/-- The empty prefix is a border of every sequence with an element. -/
theorem isBorder_zero {xs : List α} (h : 0 < xs.length) : IsBorder xs 0 :=
  ⟨h, by simp only [List.take_zero, List.nil_suffix]⟩

/-- The table holds the longest borders of the first prefixes of the needle. -/
def HoldsBorders (needle : List α) (table : Array Nat) : Prop :=
  table.size ≤ needle.length ∧
    ∀ i b, table[i]? = some b → IsLongestBorder (needle.take (i + 1)) b

/-- An entry of the table is the longest start of the needle that ends a prefix. -/
theorem HoldsBorders.entry {needle : List α} {table : Array Nat} (ht : HoldsBorders needle table)
    {m b : Nat} (hm : 0 < m) (hb : table[m - 1]? = some b) :
    b < m ∧ StandsAt needle needle b (m - b) ∧
      ∀ k < m, StandsAt needle needle k (m - k) → k ≤ b := by
  have hsize : m - 1 < table.size := (Array.getElem?_eq_some_iff.mp hb).1
  have hlong := ht.2 (m - 1) b hb
  have hlength := ht.1
  rw [show m - 1 + 1 = m by omega] at hlong
  obtain ⟨hborder, hmost⟩ := hlong
  have hm' : m ≤ needle.length := by omega
  obtain ⟨hlt, hstands⟩ := (isBorder_take hm').mp hborder
  exact ⟨hlt, hstands, fun k hk h => hmost k ((isBorder_take hm').mpr ⟨hk, h⟩)⟩

/-- The table reaches as far as its size. -/
theorem exists_entry (table : Array Nat) {m : Nat} (hm : 0 < m) (hs : m ≤ table.size) :
    ∃ b, table[m - 1]? = some b :=
  ⟨table[m - 1], Array.getElem?_eq_getElem (by omega)⟩

/-- The first element alone has no border but the empty one. -/
theorem holdsBorders_first {needle : List α} (hn : 0 < needle.length) :
    HoldsBorders needle #[0] := by
  refine ⟨hn, fun i b hb => ?_⟩
  obtain ⟨hi, hb⟩ := Array.getElem?_eq_some_iff.mp hb
  obtain rfl : i = 0 := by simpa using hi
  obtain rfl : b = 0 := by simpa using hb.symm
  refine ⟨isBorder_zero (by simp only [List.length_take]; omega), fun j hj => ?_⟩
  have hlt := hj.1
  simp only [List.length_take] at hlt
  omega

variable [BEq α] [LawfulBEq α]

/-- Falling back from a border that no extensible border exceeds ends at the longest border of the
prefix with one more element. -/
theorem extendBorder_isLongest {needle : Array α} {table : Array Nat} {x : α}
    (ht : HoldsBorders needle.toList table) (hx : needle.toList[table.size]? = some x)
    (border : Nat) (hlt : border < table.size)
    (hstands : StandsAt needle.toList needle.toList border (table.size - border))
    (hmost : ∀ k < table.size, StandsAt needle.toList needle.toList k (table.size - k) →
      needle.toList[k]? = some x → k ≤ border) :
    IsLongestBorder (needle.toList.take (table.size + 1))
      (extendBorder needle table x border) := by
  have hn : table.size + 1 ≤ needle.toList.length := (List.getElem?_eq_some_iff.mp hx).1
  -- A longer border of the longer prefix is a border of the shorter one, extended by `x`.
  have hpeel : ∀ k, IsBorder (needle.toList.take (table.size + 1)) (k + 1) →
      k ≤ border ∧ needle.toList[k]? = some x := by
    intro k hk
    obtain ⟨hkn, hs⟩ := (isBorder_take hn).mp hk
    rw [show table.size + 1 - (k + 1) = table.size - k by omega, standsAt_succ,
      show table.size - k + k = table.size by omega, hx] at hs
    exact ⟨hmost k (by omega) hs.1 hs.2.symm, hs.2.symm⟩
  fun_induction extendBorder needle table x border with
  | case1 border hit =>
    have hhit : needle.toList[border]? = some x := by
      rw [Array.getElem?_toList]
      exact beq_iff_eq.mp hit
    constructor
    · refine (isBorder_take hn).mpr ⟨by omega, ?_⟩
      rw [show table.size + 1 - (border + 1) = table.size - border by omega, standsAt_succ,
        show table.size - border + border = table.size by omega, hx, hhit]
      exact ⟨hstands, rfl⟩
    · intro k hk
      cases k with
      | zero => omega
      | succ k =>
        have hle := (hpeel k hk).1
        omega
  | case2 miss =>
    constructor
    · exact isBorder_zero (by simp only [List.length_take]; omega)
    · intro k hk
      cases k with
      | zero => omega
      | succ k =>
        obtain ⟨hle, hkx⟩ := hpeel k hk
        rw [show k = 0 by omega, Array.getElem?_toList] at hkx
        exact absurd (beq_iff_eq.mpr hkx) miss
  | case3 border miss hzero shorter hentry hshorter ih =>
    obtain ⟨hlow, hsub, hbest⟩ := ht.entry (by omega) hentry
    have hfall : ∀ k < table.size, StandsAt needle.toList needle.toList k (table.size - k) →
        needle.toList[k]? = some x → k ≤ shorter := by
      intro k hk hs hkx
      have hle := hmost k hk hs hkx
      have hne : k ≠ border := by
        rintro rfl
        rw [Array.getElem?_toList] at hkx
        exact miss (beq_iff_eq.mpr hkx)
      exact hbest k (by omega) (hstands.overlap hs hle (by omega))
    refine ih (by omega) (hstands.shorten hsub (by omega) (by omega)) hfall fun k hk => ?_
    obtain ⟨hkn, hs⟩ := (isBorder_take hn).mp hk
    have hkx := (hpeel k hk).2
    rw [show table.size + 1 - (k + 1) = table.size - k by omega] at hs
    exact ⟨hfall k (by omega) (hs.mono (by omega)) hkx, hkx⟩
  | case4 border miss hzero shorter hentry hshorter =>
    exact absurd (ht.entry (by omega) hentry).1 hshorter
  | case5 border miss hzero hnone =>
    obtain ⟨b, hb⟩ := exists_entry table (show 0 < border by omega) (by omega)
    rw [hb] at hnone
    exact absurd hnone (by simp)

/-- One more entry keeps the table right. -/
theorem HoldsBorders.push {needle : Array α} {table : Array Nat} {x : α}
    (ht : HoldsBorders needle.toList table) (hpos : 0 < table.size)
    (hx : needle.toList[table.size]? = some x) :
    HoldsBorders needle.toList
      (table.push (extendBorder needle table x (table.back?.getD 0))) := by
  have hn : table.size + 1 ≤ needle.toList.length := (List.getElem?_eq_some_iff.mp hx).1
  obtain ⟨b, hb⟩ := exists_entry table hpos (Nat.le_refl table.size)
  obtain ⟨hlt, hstands, hbest⟩ := ht.entry hpos hb
  have hback : table.back?.getD 0 = b := by
    rw [Array.back?_eq_getElem?, hb]
    rfl
  refine ⟨by simpa only [Array.size_push] using hn, fun i c hc => ?_⟩
  rw [Array.getElem?_push] at hc
  split at hc
  · rename_i hi
    have hcx : extendBorder needle table x (table.back?.getD 0) = c := Option.some.inj hc
    rw [← hcx, hi, hback]
    exact extendBorder_isLongest ht hx b hlt hstands fun k hk hs _ => hbest k hk hs
  · exact ht.2 i c hc

/-- Extending a right table by the elements that follow gives the table of the whole needle. -/
theorem extendTable_holdsBorders {needle : Array α} (rest : List α) {table : Array Nat}
    (ht : HoldsBorders needle.toList table) (hpos : 0 < table.size)
    (hrest : needle.toList.drop table.size = rest) :
    HoldsBorders needle.toList (extendTable needle table rest) ∧
      (extendTable needle table rest).size = needle.size := by
  induction rest generalizing table with
  | nil =>
    have hsize := ht.1
    have hdrop := List.drop_eq_nil_iff.mp hrest
    simp only [Array.length_toList] at hsize hdrop
    exact ⟨ht, by simp only [extendTable]; omega⟩
  | cons x rest ih =>
    have hx : needle.toList[table.size]? = some x := by
      rw [← List.head?_drop, hrest]
      rfl
    simp only [extendTable]
    refine ih (ht.push hpos hx) (by simp only [Array.size_push]; omega) ?_
    rw [Array.size_push, ← List.tail_drop, hrest]
    rfl

/-- The table of a needle has one entry for each element, the longest border of its prefix. -/
theorem borderTable_holdsBorders (needle : Array α) :
    HoldsBorders needle.toList (borderTable needle) ∧
      (borderTable needle).size = needle.size := by
  unfold borderTable
  split
  · rename_i hnil
    have hsize : needle.size = 0 := by rw [← Array.length_toList, hnil]; rfl
    refine ⟨⟨by simp, fun i b hb => ?_⟩, by rw [hsize]; rfl⟩
    simp at hb
  · rename_i x rest hcons
    exact extendTable_holdsBorders rest (holdsBorders_first (by simp [hcons])) (by simp)
      (by simp [hcons])

end LabelTally.Occurrence
