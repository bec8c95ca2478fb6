import LabelTally.Proofs.Occurrence.Comparison

/-!
# Building a border table step by step

A table is built entry by entry. For the next element a border of what lies before it is tried: it
grows by the element, or it is replaced by its own longest border, or there is none left to try.
The same element is tried again after a border is replaced, so the position alone does not tell that
building ends. Each step lowers twice the number of missing entries plus the border that is tried.

Elements are compared as in a search, so equality is only taken to be symmetric and transitive.
-/

namespace LabelTally.Occurrence

variable {α : Type}

/-! ## The entries -/

section Entries

variable [BEq α] [PartialEquivBEq α]

/-- The borders of the codes of a prefix are its own beginnings that equal what it ends with. -/
theorem isBorder_coded_iff (needle : Array α) {i k : Nat} (hi : i < needle.size) :
    IsBorder ((codedNeedle needle).toList.take (i + 1)) k ↔
      k ≤ i ∧ (needle.extract (i + 1 - k) (i + 1) == needle.extract 0 k) = true := by
  have hlength : i + 1 ≤ (codedNeedle needle).toList.length := by
    rw [Array.length_toList, size_codedNeedle]
    omega
  rw [isBorder_take hlength, Nat.lt_succ_iff]
  refine and_congr_right fun hk => ?_
  have hsize : (needle.extract 0 k).size = k := by
    rw [Array.size_extract]
    omega
  have hends := extract_beq_iff needle (needle.extract 0 k) (i + 1 - k)
  rw [hsize, show i + 1 - k + k = i + 1 by omega] at hends
  rw [hends, StandsAt]
  refine forall_congr' fun j => forall_congr' fun hj => ?_
  have hx : needle[i + 1 - k + j]? = some needle[i + 1 - k + j] :=
    Array.getElem?_eq_getElem (by omega)
  have hy : needle[j]? = some needle[j] := Array.getElem?_eq_getElem (by omega)
  have hprefix : (needle.extract 0 k)[j]? = some needle[j] := by
    simp [show j < min k needle.size by omega]
  -- The two elements stand at different places, so their codes have different tags.
  rw [Array.getElem?_toList, Array.getElem?_toList, getElem?_codedNeedle, getElem?_codedNeedle, hx,
    hy, hprefix, Option.map_some, Option.map_some, Option.some.injEq, codeOf_eq_iff (by omega)]
  simp

/-- An entry of a border table is the greatest length for which the beginning of a prefix equals its
end. -/
theorem exists_entry_isGreatest (needle : Array α) {i : Nat} (hi : i < needle.size) :
    ∃ b, (borderTable needle)[i]? = some b ∧
      IsGreatest {k | k ≤ i ∧ (needle.extract (i + 1 - k) (i + 1) == needle.extract 0 k) = true}
        b := by
  obtain ⟨hborders, hsize⟩ := borderTable_holdsBorders (codedNeedle needle)
  rw [borderTable_coded] at hborders hsize
  rw [size_codedNeedle] at hsize
  obtain ⟨b, hb⟩ := exists_entry (borderTable needle) (show 0 < i + 1 by omega) (by omega)
  obtain ⟨hborder, hmost⟩ := hborders.2 i b hb
  refine ⟨b, hb, (isBorder_coded_iff needle hi).mp hborder, fun k hk => ?_⟩
  exact hmost k ((isBorder_coded_iff needle hi).mpr hk)

end Entries

/-! ## The steps -/

/-- A state of building a table. The next element stands at the position with the number of the
entries. -/
structure TableState where
  /-- The entries so far. -/
  table : Array Nat
  /-- The length of the border that is tried for the next element. -/
  border : Nat

namespace TableState

/-- The first element has the empty border alone, which is tried for the second. -/
def start : TableState := ⟨#[0], 0⟩

/-- What is read in a state lies between the ends of the needle and of the table. -/
structure ReadsInside (needle : Array α) (s : TableState) : Prop where
  /-- There is a next element. -/
  next : s.table.size < needle.size
  /-- There is an element behind the border. -/
  border : s.border < needle.size
  /-- A border that can be replaced has an entry. -/
  entry : s.border ≠ 0 → s.border - 1 < s.table.size

/-- How many steps are left at most. -/
def weight (needle : Array α) (s : TableState) : Nat :=
  2 * (needle.size - s.table.size) + s.border

variable [BEq α]

/-- The table that building goes on to. -/
def finish (needle : Array α) (s : TableState) : Array Nat :=
  match needle.toList.drop s.table.size with
  | [] => s.table
  | x :: rest => extendTable needle (s.table.push (extendBorder needle s.table x s.border)) rest

/-- With the next element at hand, building goes on to its entry and then to the other elements. -/
theorem finish_of_next {needle : Array α} {s : TableState} {x : α}
    (hx : needle[s.table.size]? = some x) :
    s.finish needle =
      extendTable needle (s.table.push (extendBorder needle s.table x s.border))
        (needle.toList.drop (s.table.size + 1)) := by
  rw [← Array.getElem?_toList] at hx
  obtain ⟨hlt, hget⟩ := List.getElem?_eq_some_iff.mp hx
  rw [finish, List.drop_eq_getElem_cons hlt, hget]

/-- The last entry is the border to try for the next element. -/
theorem finish_of_back {needle : Array α} {s : TableState} (h : s.table.back? = some s.border) :
    s.finish needle = extendTable needle s.table (needle.toList.drop s.table.size) := by
  rw [finish]
  cases needle.toList.drop s.table.size with
  | nil => rfl
  | cons x rest =>
    rw [extendTable, h]
    rfl

end TableState

variable [BEq α]

/-- One step of building the table of a needle. -/
inductive TableStep (needle : Array α) : TableState → TableState → Prop
  /-- The border grows by the next element. -/
  | grow {table : Array Nat} {border : Nat} {x y : α} (hx : needle[table.size]? = some x)
    (hy : needle[border]? = some y) (hyx : (y == x) = true) :
    TableStep needle ⟨table, border⟩ ⟨table.push (border + 1), border + 1⟩
  /-- No border is left, and the next element is not the first one. -/
  | close {table : Array Nat} {x y : α} (hx : needle[table.size]? = some x)
    (hy : needle[0]? = some y) (hyx : (y == x) = false) :
    TableStep needle ⟨table, 0⟩ ⟨table.push 0, 0⟩
  /-- The border is replaced by its own longest border. -/
  | replace {table : Array Nat} {border shorter : Nat} {x y : α}
    (hx : needle[table.size]? = some x) (hy : needle[border]? = some y) (hyx : (y == x) = false)
    (hsome : border ≠ 0) (hentry : table[border - 1]? = some shorter) :
    TableStep needle ⟨table, border⟩ ⟨table, shorter⟩

section Extend

variable {needle : Array α} {table : Array Nat} {border : Nat} {x y : α}

/-- A border that can grow by an element does. -/
theorem extendBorder_grow (hy : needle[border]? = some y) (hyx : (y == x) = true) :
    extendBorder needle table x border = border + 1 := by
  rw [extendBorder, hy]
  exact if_pos hyx

/-- If not even the empty border grows, none does. -/
theorem extendBorder_close (hy : needle[0]? = some y) (hyx : (y == x) = false) :
    extendBorder needle table x 0 = 0 := by
  have hmiss : ¬(some y == some x) = true := ne_true_of_eq_false hyx
  rw [extendBorder, hy, if_neg hmiss, if_pos rfl]

/-- A border that does not grow is replaced by its entry. -/
theorem extendBorder_replace {shorter : Nat} (hy : needle[border]? = some y)
    (hyx : (y == x) = false) (hsome : border ≠ 0) (hentry : table[border - 1]? = some shorter)
    (hlt : shorter < border) :
    extendBorder needle table x border = extendBorder needle table x shorter := by
  have hmiss : ¬(some y == some x) = true := ne_true_of_eq_false hyx
  rw [extendBorder.eq_def needle table x border, hy, if_neg hmiss, if_neg hsome, hentry]
  exact if_pos hlt

end Extend

/-- What holds in all states of building a table. -/
structure Building (needle : Array α) (s : TableState) : Prop where
  /-- There are not more entries than elements. -/
  fits : s.table.size ≤ needle.size
  /-- The border is shorter than what lies before the next element. -/
  proper : s.border < s.table.size
  /-- Each entry is shorter than its prefix. -/
  down : ∀ i b : Nat, s.table[i]? = some b → b ≤ i
  /-- Building goes on to the table of the needle. -/
  finishes : s.finish needle = borderTable needle

namespace Building

variable {needle : Array α} {s s' : TableState}

/-- Building begins with the second element. -/
theorem start (hn : 0 < needle.size) : Building needle TableState.start where
  fits := hn
  proper := Nat.zero_lt_one
  down := by
    intro i b hb
    obtain ⟨hi, rfl⟩ := Array.getElem?_eq_some_iff.mp hb
    obtain rfl : i = 0 := by simpa [TableState.start] using hi
    rfl
  finishes := by
    rw [TableState.finish_of_back rfl, borderTable]
    cases hitems : needle.toList with
    | nil =>
      rw [← Array.length_toList, hitems] at hn
      cases hn
    | cons x rest => rfl

/-- One more entry is shorter than its prefix, if its border is. -/
theorem down_push (h : Building needle s) {entry : Nat} (hentry : entry ≤ s.table.size) :
    ∀ i b : Nat, (s.table.push entry)[i]? = some b → b ≤ i := by
  intro i b hb
  rw [Array.getElem?_push] at hb
  split at hb
  · rename_i hi
    cases hb
    omega
  · exact h.down i b hb

/-- As long as entries are missing there is a next step. -/
theorem exists_step (h : Building needle s) (hnext : s.table.size < needle.size) :
    ∃ s', TableStep needle s s' := by
  obtain ⟨table, border⟩ := s
  have hproper := h.proper
  dsimp only at hnext hproper
  have hx : needle[table.size]? = some needle[table.size] := Array.getElem?_eq_getElem hnext
  have hy : needle[border]? = some needle[border] := Array.getElem?_eq_getElem (by omega)
  cases hyx : needle[border] == needle[table.size] with
  | true => exact ⟨_, .grow hx hy hyx⟩
  | false =>
    cases border with
    | zero => exact ⟨_, .close hx hy hyx⟩
    | succ border =>
      obtain ⟨shorter, hentry⟩ := exists_entry table (Nat.succ_pos border) hproper.le
      exact ⟨_, .replace hx hy hyx (Nat.succ_ne_zero border) hentry⟩

/-- As long as entries are missing, everything is read between the ends. -/
theorem readsInside (h : Building needle s) (hnext : s.table.size < needle.size) :
    s.ReadsInside needle where
  next := hnext
  border := h.proper.trans hnext
  entry := fun hsome => by
    have hproper := h.proper
    omega

/-- A step keeps what holds. -/
theorem step (h : Building needle s) (hstep : TableStep needle s s') : Building needle s' := by
  have hproper := h.proper
  have hfinish := h.finishes
  cases hstep with
  | grow hx hy hyx =>
    have hlt := (Array.getElem?_eq_some_iff.mp hx).1
    dsimp only at hproper
    refine ⟨?_, ?_, h.down_push hproper, ?_⟩
    · simp only [Array.size_push]
      omega
    · simp only [Array.size_push]
      omega
    · rw [TableState.finish_of_back (Array.back?_push ..), Array.size_push, ← hfinish,
        TableState.finish_of_next hx, extendBorder_grow hy hyx]
  | close hx hy hyx =>
    have hlt := (Array.getElem?_eq_some_iff.mp hx).1
    refine ⟨?_, ?_, h.down_push (Nat.zero_le _), ?_⟩
    · simp only [Array.size_push]
      omega
    · simp only [Array.size_push]
      omega
    · rw [TableState.finish_of_back (Array.back?_push ..), Array.size_push, ← hfinish,
        TableState.finish_of_next hx, extendBorder_close hy hyx]
  | replace hx hy hyx hsome hentry =>
    have hle := h.down _ _ hentry
    dsimp only at hproper hle
    refine ⟨h.fits, ?_, h.down, ?_⟩
    · dsimp only
      omega
    · rw [← hfinish, TableState.finish_of_next hx, TableState.finish_of_next hx,
        extendBorder_replace hy hyx hsome hentry (by omega)]

/-- A step leaves less to do. -/
theorem weight_lt (h : Building needle s) (hstep : TableStep needle s s') :
    s'.weight needle < s.weight needle := by
  cases hstep with
  | grow hx hy hyx =>
    have hlt := (Array.getElem?_eq_some_iff.mp hx).1
    simp only [TableState.weight, Array.size_push]
    omega
  | close hx hy hyx =>
    have hlt := (Array.getElem?_eq_some_iff.mp hx).1
    simp only [TableState.weight, Array.size_push]
    omega
  | replace hx hy hyx hsome hentry =>
    have hle := h.down _ _ hentry
    simp only [TableState.weight]
    omega

/-- All states of a run are states of building, and the run is not longer than what there was to
do. -/
theorem run (h : Building needle s) {states : List TableState}
    (hrun : (s :: states).IsChain (TableStep needle)) :
    (∀ s' ∈ s :: states, Building needle s') ∧ states.length ≤ s.weight needle := by
  induction states generalizing s with
  | nil => exact ⟨List.forall_mem_singleton.mpr h, Nat.zero_le _⟩
  | cons next states ih =>
    obtain ⟨hstep, hrest⟩ := List.isChain_cons_cons.mp hrun
    obtain ⟨hall, hlength⟩ := ih (h.step hstep) hrest
    have hlt := h.weight_lt hstep
    refine ⟨List.forall_mem_cons.mpr ⟨h, hall⟩, ?_⟩
    rw [List.length_cons]
    omega

/-- With all entries the table is that of the needle. -/
theorem table_eq (h : Building needle s) (hall : needle.size ≤ s.table.size) :
    s.table = borderTable needle := by
  have hdrop : needle.toList.drop s.table.size = [] := by
    rw [List.drop_eq_nil_iff, Array.length_toList]
    exact hall
  have hfinish := h.finishes
  rwa [TableState.finish, hdrop] at hfinish

end Building

/-- The table of a needle has an entry for each element: the greatest length, up to the position of
the element, for which the prefix that ends with it begins and ends with equal elements. Building
the table comes to an end after at most twice as many steps as there are elements behind the first.
Until then there is a next step, which reads the needle and the table between their ends. -/
theorem borderTable_isGreatest [PartialEquivBEq α] (needle : Array α) :
    (borderTable needle).size = needle.size ∧
    (∀ i < needle.size, ∃ b, (borderTable needle)[i]? = some b ∧
      IsGreatest {k | k ≤ i ∧ (needle.extract (i + 1 - k) (i + 1) == needle.extract 0 k) = true}
        b) ∧
    (0 < needle.size → ∀ states : List TableState,
      (TableState.start :: states).IsChain (TableStep needle) →
        states.length ≤ 2 * (needle.size - 1) ∧
        ∀ s ∈ TableState.start :: states,
          (s.table.size < needle.size → s.ReadsInside needle ∧ ∃ s', TableStep needle s s') ∧
          (needle.size ≤ s.table.size → s.table = borderTable needle)) := by
  refine ⟨(leadsDown_borderTable needle).size, fun i hi => exists_entry_isGreatest needle hi,
    fun hn states hrun => ?_⟩
  obtain ⟨hall, hlength⟩ := (Building.start hn).run hrun
  refine ⟨hlength, fun s hs => ⟨fun hnext => ?_, (hall s hs).table_eq⟩⟩
  exact ⟨(hall s hs).readsInside hnext, (hall s hs).exists_step hnext⟩

/-- A needle in which a border is replaced twice, once by a border that grows and once by none. -/
theorem borderTable_isGreatest_replaced_borders :
    (TableState.start :: [⟨#[0, 1], 1⟩, ⟨#[0, 1], 0⟩, ⟨#[0, 1, 0], 0⟩, ⟨#[0, 1, 0, 1], 1⟩,
      ⟨#[0, 1, 0, 1, 2], 2⟩, ⟨#[0, 1, 0, 1, 2], 1⟩, ⟨#[0, 1, 0, 1, 2, 2], 2⟩]).IsChain
        (TableStep #[1, 1, 2, 1, 1, 1]) ∧
      #[0, 1, 0, 1, 2, 2] = borderTable #[1, 1, 2, 1, 1, 1] ∧
      IsGreatest {k | k ≤ 5 ∧ (#[1, 1, 2, 1, 1, 1].extract (6 - k) 6 ==
        #[1, 1, 2, 1, 1, 1].extract 0 k) = true} 2 := by
  have hrun : (TableState.start :: [⟨#[0, 1], 1⟩, ⟨#[0, 1], 0⟩, ⟨#[0, 1, 0], 0⟩,
      ⟨#[0, 1, 0, 1], 1⟩, ⟨#[0, 1, 0, 1, 2], 2⟩, ⟨#[0, 1, 0, 1, 2], 1⟩,
      ⟨#[0, 1, 0, 1, 2, 2], 2⟩]).IsChain (TableStep #[1, 1, 2, 1, 1, 1]) := by
    simp only [List.isChain_cons_cons, List.isChain_singleton, and_true]
    exact ⟨.grow rfl rfl rfl, .replace rfl rfl rfl (by decide) rfl, .close rfl rfl rfl,
      .grow rfl rfl rfl, .grow rfl rfl rfl, .replace rfl rfl rfl (by decide) rfl,
      .grow rfl rfl rfl⟩
  obtain ⟨-, hentries, hbuilding⟩ := borderTable_isGreatest #[1, 1, 2, 1, 1, 1]
  obtain ⟨-, hstates⟩ := hbuilding (by decide) _ hrun
  have htable : #[0, 1, 0, 1, 2, 2] = borderTable #[1, 1, 2, 1, 1, 1] :=
    (hstates ⟨#[0, 1, 0, 1, 2, 2], 2⟩ (by simp)).2 (by decide)
  obtain ⟨b, hb, hgreatest⟩ := hentries 5 (by decide)
  rw [← htable] at hb
  cases hb
  exact ⟨hrun, htable, hgreatest⟩

end LabelTally.Occurrence
