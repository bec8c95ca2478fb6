import LabelTally.Proofs.Occurrence.Search

/-!
# Searching for elements that are compared

A search asks of its elements only whether two of them are equal, and equality need not be identity:
numbers of different kinds can be equal, and an element that does not equal itself stands nowhere.
It is enough that equality is symmetric and transitive. Then elements are replaced by codes that are
the same exactly if the elements are equal, and the search for the codes takes the same way.

Apart from what a search answers, its steps are followed one by one. A table whose entries lead down
keeps every read between the ends of what is read.
-/

namespace LabelTally.Occurrence

variable {α : Type}

/-- The right answer of a search is the least position of the needle from the start on. -/
theorem IsFirst.isLeast {needle xs : List α} {start : Nat} {answer : Option Nat}
    (h : IsFirst needle xs start answer) :
    (∀ p, answer = some p ↔ IsLeast {q | start ≤ q ∧ OccursAt needle xs q} p) ∧
      (answer = none ↔ ∀ q, start ≤ q → ¬OccursAt needle xs q) := by
  cases answer with
  | none =>
    refine ⟨fun p => ⟨by simp, fun hleast => ?_⟩, iff_of_true rfl h⟩
    exact absurd hleast.1.2 (h p hleast.1.1)
  | some first =>
    have hfirst : IsLeast {q | start ≤ q ∧ OccursAt needle xs q} first :=
      ⟨⟨h.1, h.2.1⟩, fun q hq => h.2.2 q hq.1 hq.2⟩
    refine ⟨fun p => ⟨?_, fun hleast => congrArg some (hfirst.unique hleast)⟩, ?_⟩
    · rintro ⟨⟩
      exact hfirst
    · exact iff_of_false (by simp) fun hnone => hnone first h.1 h.2.1

/-- What stands for an element: which elements it equals, and a tag if it does not equal itself. -/
@[ext] structure Code (α : Type) where
  /-- The element equals this one. -/
  equals : α → Bool
  /-- The tag of an element that does not equal itself. -/
  tag : Option Nat

noncomputable instance : DecidableEq (Code α) := Classical.decEq _

variable [BEq α]

/-- The code of an element, with the tag that it gets if it needs one. -/
def codeOf (tag : Nat) (x : α) : Code α := ⟨fun z => x == z, if x == x then none else some tag⟩

/-- The codes of a needle. Each element has a tag of its own. -/
def codedNeedle (needle : Array α) : Array (Code α) := needle.mapIdx fun i x => codeOf (i + 1) x

/-- The codes of a haystack. Its elements are not compared with each other. -/
def codedHaystack (haystack : Array α) : Array (Code α) := haystack.map (codeOf 0)

@[simp] theorem size_codedNeedle (needle : Array α) : (codedNeedle needle).size = needle.size :=
  Array.size_mapIdx

@[simp] theorem size_codedHaystack (haystack : Array α) :
    (codedHaystack haystack).size = haystack.size :=
  Array.size_map

theorem getElem?_codedNeedle (needle : Array α) (i : Nat) :
    (codedNeedle needle)[i]? = needle[i]?.map (codeOf (i + 1)) :=
  Array.getElem?_mapIdx

theorem getElem?_codedHaystack (haystack : Array α) (i : Nat) :
    (codedHaystack haystack)[i]? = haystack[i]?.map (codeOf 0) :=
  Array.getElem?_map

/-- An element of a coded needle, from whichever end its position counts. -/
theorem elementAt?_codedNeedle (needle : Array α) (i : Int) :
    ∃ k, elementAt? (codedNeedle needle) i = (elementAt? needle i).map (codeOf (k + 1)) := by
  unfold elementAt?
  rw [size_codedNeedle]
  split
  · exact ⟨_, getElem?_codedNeedle needle _⟩
  · split
    · exact ⟨_, getElem?_codedNeedle needle _⟩
    · exact ⟨0, rfl⟩

/-- An element of a coded haystack. -/
theorem elementAt?_codedHaystack (haystack : Array α) (i : Int) :
    elementAt? (codedHaystack haystack) i = (elementAt? haystack i).map (codeOf 0) := by
  unfold elementAt?
  rw [size_codedHaystack]
  split
  · exact getElem?_codedHaystack haystack _
  · split
    · exact getElem?_codedHaystack haystack _
    · rfl

/-- A stretch of a haystack equals the needle exactly if it does so element by element. -/
theorem extract_beq_iff (haystack needle : Array α) (p : Nat) :
    (haystack.extract p (p + needle.size) == needle) = true ↔
      ∀ j < needle.size, ∃ x y, haystack[p + j]? = some x ∧ needle[j]? = some y ∧
        (x == y) = true := by
  rw [Array.beq_eq_decide]
  constructor
  · intro h j hj
    split at h
    · rename_i hsize
      rw [Array.size_extract] at hsize
      have hat := of_decide_eq_true h j (by rw [Array.size_extract]; omega)
      rw [Array.getElem_extract] at hat
      exact ⟨_, _, Array.getElem?_eq_getElem (by omega), Array.getElem?_eq_getElem hj, hat⟩
    · cases h
  · intro h
    have hsize : (haystack.extract p (p + needle.size)).size = needle.size := by
      rw [Array.size_extract]
      by_cases hempty : needle.size = 0
      · omega
      · obtain ⟨x, _, hx, _⟩ := h (needle.size - 1) (by omega)
        have hlt := (Array.getElem?_eq_some_iff.mp hx).1
        omega
    rw [dif_pos hsize, decide_eq_true_iff]
    intro j hj
    obtain ⟨x, y, hx, hy, hxy⟩ := h j (by omega)
    rw [Array.getElem_extract, (Array.getElem?_eq_some_iff.mp hx).2,
      (Array.getElem?_eq_some_iff.mp hy).2]
    exact hxy

section Coded

variable [PartialEquivBEq α]

/-- Codes with different tags are the same exactly if their elements are equal. -/
theorem codeOf_eq_iff {k l : Nat} (hkl : k ≠ l) (x y : α) :
    codeOf k x = codeOf l y ↔ (x == y) = true := by
  constructor
  · intro hcode
    have hequals := congrFun (congrArg Code.equals hcode) y
    have htag := congrArg Code.tag hcode
    simp only [codeOf] at hequals htag
    split at htag
    · split at htag
      · rename_i hx hy
        rw [hequals, hy]
      · simp at htag
    · split at htag
      · simp at htag
      · exact absurd (Option.some.inj htag) hkl
  · intro hxy
    have hx : (x == x) = true := BEq.trans hxy (BEq.symm hxy)
    have hy : (y == y) = true := BEq.trans (BEq.symm hxy) hxy
    refine Code.ext (funext fun z => BEq.congr_left hxy) ?_
    simp only [codeOf, hx, hy, if_true]

theorem codeOf_beq {k l : Nat} (hkl : k ≠ l) (x y : α) :
    (codeOf k x == codeOf l y) = (x == y) := by
  rw [Bool.eq_iff_iff, beq_iff_eq, codeOf_eq_iff hkl]

/-- Falling back from a border before an element compares the element with earlier ones only. -/
theorem extendBorder_coded (needle : Array α) (table : Array Nat) (x : α) {i border : Nat}
    (hborder : border < i) :
    extendBorder (codedNeedle needle) table (codeOf (i + 1) x) border =
      extendBorder needle table x border := by
  have hcompare : ∀ j < i, ((codedNeedle needle)[j]? == some (codeOf (i + 1) x)) =
      (needle[j]? == some x) := by
    intro j hj
    rw [getElem?_codedNeedle]
    cases needle[j]? with
    | none => rfl
    | some y => exact codeOf_beq (by omega) y x
  fun_induction extendBorder needle table x border with
  | case1 border hit => rw [extendBorder, if_pos (by rw [hcompare border hborder, hit])]
  | case2 miss => rw [extendBorder, if_neg (by rw [hcompare 0 hborder]; exact miss), if_pos rfl]
  | case3 border miss hzero shorter hentry hshorter ih =>
    rw [extendBorder, if_neg (by rw [hcompare border hborder]; exact miss), if_neg hzero, hentry]
    dsimp only
    rw [if_pos hshorter]
    exact ih (by omega)
  | case4 border miss hzero shorter hentry hshorter =>
    rw [extendBorder, if_neg (by rw [hcompare border hborder]; exact miss), if_neg hzero, hentry]
    dsimp only
    rw [if_neg hshorter]
  | case5 border miss hzero hnone =>
    rw [extendBorder, if_neg (by rw [hcompare border hborder]; exact miss), if_neg hzero, hnone]

/-- A table is extended by the elements that follow as it is by their codes. -/
theorem extendTable_coded (needle : Array α) (rest : List α) {table : Array Nat}
    (ht : HoldsBorders (codedNeedle needle).toList table) (hpos : 0 < table.size)
    (hrest : needle.toList.drop table.size = rest) :
    extendTable (codedNeedle needle) table ((codedNeedle needle).toList.drop table.size) =
      extendTable needle table rest := by
  induction rest generalizing table with
  | nil =>
    have hdrop := List.drop_eq_nil_iff.mp hrest
    rw [List.drop_eq_nil_iff.mpr (by simpa using hdrop)]
    rfl
  | cons x rest ih =>
    have hx : needle[table.size]? = some x := by
      rw [← Array.getElem?_toList, ← List.head?_drop, hrest]
      rfl
    have hcode : (codedNeedle needle).toList[table.size]? = some (codeOf (table.size + 1) x) := by
      rw [Array.getElem?_toList, getElem?_codedNeedle, hx]
      rfl
    obtain ⟨b, hb⟩ := exists_entry table hpos (Nat.le_refl table.size)
    have hback : table.back?.getD 0 < table.size := by
      rw [Array.back?_eq_getElem?, hb]
      exact (ht.entry hpos hb).1
    have hpush := ht.push hpos hcode
    rw [extendBorder_coded needle table x hback] at hpush
    have hnext := ih hpush (by simp) (by rw [Array.size_push, ← List.tail_drop, hrest]; rfl)
    rw [List.drop_eq_getElem_cons (List.getElem?_eq_some_iff.mp hcode).1,
      (List.getElem?_eq_some_iff.mp hcode).2, extendTable, extendTable,
      extendBorder_coded needle table x hback]
    rwa [Array.size_push] at hnext

/-- The table of a needle is that of its codes. -/
theorem borderTable_coded (needle : Array α) :
    borderTable (codedNeedle needle) = borderTable needle := by
  cases hitems : needle.toList with
  | nil =>
    have hcodes : (codedNeedle needle).toList = [] := by
      rw [← List.length_eq_zero_iff, Array.length_toList, size_codedNeedle, ← Array.length_toList,
        hitems]
      rfl
    rw [borderTable, borderTable, hitems, hcodes]
  | cons x rest =>
    have hsize : 0 < (codedNeedle needle).toList.length := by
      rw [Array.length_toList, size_codedNeedle, ← Array.length_toList, hitems]
      simp
    obtain ⟨c, codes, hcodes⟩ := List.exists_cons_of_length_pos hsize
    have hextend := extendTable_coded needle rest (holdsBorders_first hsize) (by simp)
      (by rw [hitems]; rfl)
    rw [hcodes] at hextend
    rw [borderTable, borderTable, hitems, hcodes]
    exact hextend

/-- A search takes the same way with codes. -/
theorem searchFrom_coded (haystack needle : Array α) (table : Array Int) (pos matched : Int)
    (budget : Nat) :
    searchFrom (codedHaystack haystack) (codedNeedle needle) table pos matched budget =
      searchFrom haystack needle table pos matched budget := by
  obtain ⟨k, hcode⟩ := elementAt?_codedNeedle needle matched
  rw [searchFrom.eq_def, searchFrom.eq_def haystack, size_codedHaystack, size_codedNeedle,
    elementAt?_codedHaystack, hcode]
  split
  · cases elementAt? haystack pos with
    | none => rfl
    | some x =>
      cases elementAt? needle matched with
      | none => rfl
      | some y =>
        simp only [Option.map_some, codeOf_beq (Nat.succ_ne_zero k).symm]
        split
        · split
          · rfl
          · exact searchFrom_coded haystack needle table _ _ _
        · split
          · exact searchFrom_coded haystack needle table _ _ _
          · cases elementAt? table (matched - 1) with
            | none => rfl
            | some shorter =>
              cases budget with
              | zero => rfl
              | succ budget => exact searchFrom_coded haystack needle table _ _ _
  · rfl
termination_by ((haystack.size - pos).toNat, budget)

/-- A search is the same with codes. -/
theorem search_coded (haystack needle : Array α) (table : Array Int) (start : Int) :
    search (codedHaystack haystack) (codedNeedle needle) table start =
      search haystack needle table start := by
  rw [search, search, size_codedHaystack, size_codedNeedle, searchFrom_coded]

/-- The codes of a needle stand at a position exactly if the elements there equal the needle. -/
theorem occursAt_coded_iff (haystack needle : Array α) (p : Nat) :
    OccursAt (codedNeedle needle).toList (codedHaystack haystack).toList p ↔
      (haystack.extract p (p + needle.size) == needle) = true := by
  rw [occursAt_iff_standsAt, extract_beq_iff, StandsAt, Array.length_toList, size_codedNeedle]
  refine forall_congr' fun j => forall_congr' fun hj => ?_
  have hy : needle[j]? = some needle[j] := Array.getElem?_eq_getElem hj
  rw [Array.getElem?_toList, Array.getElem?_toList, getElem?_codedHaystack, getElem?_codedNeedle,
    hy, Option.map_some, Option.map_eq_some_iff]
  simp only [codeOf_eq_iff (Nat.succ_ne_zero j).symm, Option.some.injEq]
  constructor
  · rintro ⟨x, hx, hxy⟩
    exact ⟨x, _, hx, rfl, hxy⟩
  · rintro ⟨x, _, hx, rfl, hxy⟩
    exact ⟨x, hx, hxy⟩

end Coded

/-- One step of a search: from a position of the haystack, with so many elements of the needle
matched before it, to the next. -/
inductive SearchStep (haystack needle : Array α) (table : Array Int) : Int × Int → Int × Int → Prop
  /-- The next elements are equal, and the needle goes on. -/
  | advance {pos matched : Int} {x y : α} (hpos : pos < haystack.size)
    (hx : elementAt? haystack pos = some x) (hy : elementAt? needle matched = some y)
    (hxy : (x == y) = true) (hopen : matched + 1 ≠ needle.size) :
    SearchStep haystack needle table (pos, matched) (pos + 1, matched + 1)
  /-- The first element of the needle is not here. -/
  | skip {pos : Int} {x y : α} (hpos : pos < haystack.size)
    (hx : elementAt? haystack pos = some x) (hy : elementAt? needle 0 = some y)
    (hxy : (x == y) = false) :
    SearchStep haystack needle table (pos, 0) (pos + 1, 0)
  /-- The next elements differ, and the table tells how much is still matched. -/
  | fallBack {pos matched shorter : Int} {x y : α} (hpos : pos < haystack.size)
    (hx : elementAt? haystack pos = some x) (hy : elementAt? needle matched = some y)
    (hxy : (x == y) = false) (hsome : matched ≠ 0)
    (hentry : elementAt? table (matched - 1) = some shorter) :
    SearchStep haystack needle table (pos, matched) (pos, shorter)

/-- What a search reads in a state lies between the ends of its sequence. -/
structure ReadsInside (haystack needle : Array α) (table : Array Int) (s : Int × Int) : Prop where
  /-- The haystack is read only before its end. -/
  haystack : s.1 < haystack.size → 0 ≤ s.1
  /-- The needle is read where it is not matched yet. -/
  needle : 0 ≤ s.2 ∧ s.2 < needle.size
  /-- The table is read if something is matched. -/
  table : s.2 ≠ 0 → 0 ≤ s.2 - 1 ∧ s.2 - 1 < table.size

/-- The table has an entry for each element of the needle, which is shorter than the prefix that it
is an entry for. -/
structure LeadsDown (needle : Array α) (table : Array Nat) : Prop where
  /-- There is one entry for each element. -/
  size : table.size = needle.size
  /-- Each is shorter than its prefix. -/
  entry : ∀ m b, 0 < m → table[m - 1]? = some b → b < m

/-- The border table of a needle leads down. -/
theorem leadsDown_borderTable [PartialEquivBEq α] (needle : Array α) :
    LeadsDown needle (borderTable needle) := by
  obtain ⟨hborders, hsize⟩ := borderTable_holdsBorders (codedNeedle needle)
  rw [borderTable_coded] at hborders hsize
  exact ⟨by rw [hsize, size_codedNeedle], fun m b hm hb => (hborders.entry hm hb).1⟩

section Steps

variable {haystack needle : Array α} {table : Array Nat} (htable : LeadsDown needle table)
include htable

omit [BEq α] in
/-- Falling back leaves less matched. -/
theorem LeadsDown.shorter_lt {matched shorter : Int} (hmatched : 0 < matched)
    (hentry : elementAt? (table.map Int.ofNat) (matched - 1) = some shorter) :
    0 ≤ shorter ∧ shorter < matched := by
  obtain ⟨m, rfl⟩ := Int.eq_ofNat_of_zero_le hmatched.le
  rw [elementAt?_map_pred (by omega), Option.map_eq_some_iff] at hentry
  obtain ⟨b, hb, rfl⟩ := hentry
  exact ⟨Int.natCast_nonneg b, Int.ofNat_lt.mpr (htable.entry m b (by omega) hb)⟩

/-- A step of a search keeps its reads inside. -/
theorem SearchStep.readsInside {s s' : Int × Int}
    (hstep : SearchStep haystack needle (table.map Int.ofNat) s s')
    (hs : ReadsInside haystack needle (table.map Int.ofNat) s) :
    ReadsInside haystack needle (table.map Int.ofNat) s' := by
  have hsize := htable.size
  obtain ⟨hhaystack, ⟨hleast, hmost⟩, _⟩ := hs
  cases hstep with
  | advance hpos hx hy hxy hopen =>
    dsimp only at hhaystack hleast hmost
    have hnonneg := hhaystack hpos
    refine ⟨fun _ => ?_, ?_, fun _ => ?_⟩
    all_goals simp only [Array.size_map]
    all_goals omega
  | skip hpos hx hy hxy =>
    dsimp only at hhaystack
    have hnonneg := hhaystack hpos
    refine ⟨fun _ => ?_, ⟨hleast, hmost⟩, fun hne => absurd rfl hne⟩
    dsimp only
    omega
  | fallBack hpos hx hy hxy hsome hentry =>
    dsimp only at hleast hmost
    obtain ⟨hnonneg, hlt⟩ := htable.shorter_lt (by omega) hentry
    refine ⟨hhaystack, ⟨hnonneg, ?_⟩, fun hne => ?_⟩
    · dsimp only
      omega
    · simp only [Array.size_map] at hne ⊢
      omega

/-- A search goes on as its steps say. What is left to fall back at one position suffices as long as
it is not less than what is matched. -/
theorem SearchStep.searchFrom_eq {s s' : Int × Int}
    (hstep : SearchStep haystack needle (table.map Int.ofNat) s s')
    (hs : ReadsInside haystack needle (table.map Int.ofNat) s) {budget : Nat}
    (hbudget : s.2 ≤ budget) :
    ∃ budget' : Nat, s'.2 ≤ budget' ∧
      searchFrom haystack needle (table.map Int.ofNat) s.1 s.2 budget =
        searchFrom haystack needle (table.map Int.ofNat) s'.1 s'.2 budget' := by
  have hsize := htable.size
  obtain ⟨hleast, hmost⟩ := hs.needle
  rw [searchFrom.eq_def]
  cases hstep with
  | advance hpos hx hy hxy hopen =>
    dsimp only at hmost
    refine ⟨(table.map Int.ofNat).size + 1, ?_, ?_⟩
    · simp only [Array.size_map]
      omega
    · simp only [hpos, hx, hy, hxy, hopen, if_true, if_false]
  | skip hpos hx hy hxy =>
    refine ⟨(table.map Int.ofNat).size + 1, ?_, ?_⟩
    · dsimp only
      omega
    · simp only [hpos, hx, hy, hxy, Bool.false_eq_true, if_true, if_false]
  | fallBack hpos hx hy hxy hsome hentry =>
    dsimp only at hleast hmost hbudget
    obtain ⟨hnonneg, hlt⟩ := htable.shorter_lt (by omega) hentry
    obtain ⟨budget, rfl⟩ : ∃ n, budget = n + 1 := ⟨budget - 1, by omega⟩
    refine ⟨budget, ?_, ?_⟩
    · dsimp only
      omega
    · simp only [hpos, hx, hy, hxy, hsome, hentry, Bool.false_eq_true, if_true, if_false]

/-- In every state that a search comes to it reads inside, and it goes on from there. -/
theorem readsInside_of_reached (hn : 0 < needle.size) {start : Nat} {s : Int × Int}
    (hrun : Relation.ReflTransGen (SearchStep haystack needle (table.map Int.ofNat))
      ((start : Int), 0) s) :
    ReadsInside haystack needle (table.map Int.ofNat) s ∧ ∃ budget : Nat, s.2 ≤ budget ∧
      searchFrom haystack needle (table.map Int.ofNat) start 0 ((table.map Int.ofNat).size + 1) =
        searchFrom haystack needle (table.map Int.ofNat) s.1 s.2 budget := by
  induction hrun with
  | refl =>
    refine ⟨⟨fun _ => Int.natCast_nonneg start, ⟨le_refl _, ?_⟩, fun hne => absurd rfl hne⟩, _,
      ?_, rfl⟩
    · dsimp only
      omega
    · dsimp only
      omega
  | tail hrun hstep ih =>
    obtain ⟨hinside, budget, hbudget, hgoes⟩ := ih
    obtain ⟨budget', hbudget', hnext⟩ := hstep.searchFrom_eq htable hinside hbudget
    exact ⟨hstep.readsInside htable hinside, budget', hbudget', hgoes.trans hnext⟩

end Steps

/-- With the border table of its needle a search gives the least position at or after its start
where the elements equal the needle, and none exactly if there is no such position. In every state
that it comes to it reads its sequences between their ends. -/
theorem search_isLeast [PartialEquivBEq α] (haystack needle : Array α) (hn : 0 < needle.size)
    (start : Nat) :
    (∃ answer : Option Nat,
      search haystack needle ((borderTable needle).map Int.ofNat) start =
        .ok (answer.map Int.ofNat) ∧
      (∀ p, answer = some p ↔
        IsLeast {q | start ≤ q ∧ (haystack.extract q (q + needle.size) == needle) = true} p) ∧
      (answer = none ↔
        ∀ q, start ≤ q → ¬(haystack.extract q (q + needle.size) == needle) = true)) ∧
    ((needle.size : Int) ≤ haystack.size - start → ∀ s, Relation.ReflTransGen
        (SearchStep haystack needle ((borderTable needle).map Int.ofNat)) ((start : Int), 0) s →
      ReadsInside haystack needle ((borderTable needle).map Int.ofNat) s ∧
      ∃ budget, search haystack needle ((borderTable needle).map Int.ofNat) start =
        searchFrom haystack needle ((borderTable needle).map Int.ofNat) s.1 s.2 budget) := by
  constructor
  · have hn' : 0 < (codedNeedle needle).size := by rwa [size_codedNeedle]
    obtain ⟨answer, hsearch, hfirst⟩ := search_isFirst (codedHaystack haystack) hn' start
    have hleast := hfirst.isLeast
    simp only [occursAt_coded_iff] at hleast
    rw [borderTable_coded, search_coded] at hsearch
    exact ⟨answer, hsearch, hleast⟩
  · intro hfits s hrun
    have hdown := leadsDown_borderTable needle
    obtain ⟨hinside, budget, _, hgoes⟩ := readsInside_of_reached hdown hn hrun
    refine ⟨hinside, budget, ?_⟩
    rw [search, if_neg (by omega), hgoes]

/-- A needle whose borders have borders: the search from position 1 falls back twice before the
element 3, and keeps a border of what is matched when it comes to position 9. -/
theorem search_isLeast_nested_borders :
    0 < #[1, 1, 2, 1, 1, 1, 2].size ∧
      search #[1, 1, 2, 1, 1, 3, 1, 1, 2, 1, 1, 2, 1, 1, 1, 2] #[1, 1, 2, 1, 1, 1, 2]
        ((borderTable #[1, 1, 2, 1, 1, 1, 2]).map Int.ofNat) (1 : Nat) = .ok (some 9) ∧
      IsLeast {q | 1 ≤ q ∧ (#[1, 1, 2, 1, 1, 3, 1, 1, 2, 1, 1, 2, 1, 1, 1, 2].extract q (q + 7) ==
        #[1, 1, 2, 1, 1, 1, 2]) = true} 9 := by
  have hfound : search #[1, 1, 2, 1, 1, 3, 1, 1, 2, 1, 1, 2, 1, 1, 1, 2] #[1, 1, 2, 1, 1, 1, 2]
      ((borderTable #[1, 1, 2, 1, 1, 1, 2]).map Int.ofNat) (1 : Nat) = .ok (some 9) := by cbv
  obtain ⟨⟨answer, hsearch, hleast, _⟩, _⟩ := search_isLeast
    #[1, 1, 2, 1, 1, 3, 1, 1, 2, 1, 1, 2, 1, 1, 1, 2] #[1, 1, 2, 1, 1, 1, 2] (by decide) 1
  refine ⟨by decide, hfound, (hleast 9).mp ?_⟩
  rw [hfound] at hsearch
  cases answer with
  | none => simp at hsearch
  | some p =>
    have hp : (9 : Int) = p := by simpa using hsearch
    rw [show p = 9 by omega]

end LabelTally.Occurrence
