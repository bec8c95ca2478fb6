import LabelTally.Proofs.Settings.Checks

/-!
# Names in a settings file

No table that is read from a document has two entries of one name, at any depth. An empty document
has none, and every statement keeps it so: an entry is added under a name that is new, and what is
replaced on the way to it keeps its name. So the value that a name has in a table is the only one,
and it does not matter from which end it is looked for.
-/

namespace LabelTally

open Toml (isNested)

/-- No table in the value has two entries of one name. -/
inductive Value.IsDistinct : Value → Prop
  /-- There is no table in the value. -/
  | leaf {v : Value} (h : isNested v = false) : IsDistinct v
  /-- There is none in the items of a list. -/
  | list {items : List Value} (h : ∀ v ∈ items, IsDistinct v) : IsDistinct (.list items)
  /-- There is none in the entries of a table, nor is the table itself one. -/
  | table {entries : List (String × Value)} (hnames : (entries.map Prod.fst).Nodup)
    (h : ∀ e ∈ entries, IsDistinct e.2) : IsDistinct (.table entries)

theorem Value.isDistinct_table_iff {entries : List (String × Value)} :
    (Value.table entries).IsDistinct ↔
      (entries.map Prod.fst).Nodup ∧ ∀ e ∈ entries, e.2.IsDistinct := by
  constructor
  · intro h
    cases h with
    | leaf h => cases h
    | table hnames h => exact ⟨hnames, h⟩
  · exact fun h => .table h.1 h.2

theorem Value.isDistinct_list_iff {items : List Value} :
    (Value.list items).IsDistinct ↔ ∀ v ∈ items, v.IsDistinct := by
  constructor
  · intro h
    cases h with
    | leaf h => cases h
    | list h => exact h
  · exact .list

theorem Value.isDistinct_empty : (Value.table []).IsDistinct :=
  .table List.nodup_nil (by simp)

/-- What a name stands for in a table has distinct names if the table has. -/
theorem Value.IsDistinct.lookup {t : Toml.Table} (h : (Value.table t).IsDistinct) {key : String}
    {v : Value} (hkey : t.lookup key = some v) : v.IsDistinct := by
  obtain ⟨before, after, hentries, -⟩ := List.lookup_eq_some_iff.mp hkey
  exact (isDistinct_table_iff.mp h).2 (key, v)
    (hentries ▸ List.mem_append_right _ List.mem_cons_self)

/-- In a table with distinct names the last entry of a name is also the first. -/
theorem Value.IsDistinct.lookup_reverse {t : Toml.Table} (h : (Value.table t).IsDistinct)
    (key : String) : t.reverse.lookup key = t.lookup key := by
  have hnames := (isDistinct_table_iff.mp h).1
  clear h
  induction t with
  | nil => rfl
  | cons e rest ih =>
    obtain ⟨name, v⟩ := e
    obtain ⟨hfresh, hrest⟩ := List.nodup_cons.mp hnames
    rw [List.reverse_cons, List.lookup_append, ih hrest, List.lookup_cons]
    by_cases hkey : key = name
    · subst hkey
      have hnone : rest.lookup key = none :=
        List.lookup_eq_none_iff.mpr fun e he => bne_iff_ne.mpr fun heq =>
          hfresh (List.mem_map.mpr ⟨e, he, heq.symm⟩)
      simp [hnone]
    · simp [List.lookup_cons, beq_false_of_ne hkey]

namespace Toml

/-! ## Changing tables -/

theorem mem_setEntry {t : Table} {key : String} {v : Value} {e : String × Value}
    (h : e ∈ setEntry t key v) : e ∈ t ∨ e = (key, v) := by
  induction t with
  | nil => exact .inr (List.mem_singleton.mp h)
  | cons first rest ih =>
    rw [setEntry] at h
    split at h
    · exact (List.mem_cons.mp h).symm.imp_left (List.mem_cons_of_mem _)
    · obtain rfl | h := List.mem_cons.mp h
      · exact .inl List.mem_cons_self
      · exact (ih h).imp_left (List.mem_cons_of_mem _)

/-- Setting an entry keeps the names, and a new one comes last. -/
theorem map_fst_setEntry (t : Table) (key : String) (v : Value) :
    (setEntry t key v).map Prod.fst =
      if key ∈ t.map Prod.fst then t.map Prod.fst else t.map Prod.fst ++ [key] := by
  induction t with
  | nil => rfl
  | cons first rest ih =>
    by_cases hfirst : first.1 = key
    · simp [setEntry, hfirst]
    · have hne : key ≠ first.1 := Ne.symm hfirst
      simp only [setEntry, beq_iff_eq, hfirst, if_false, List.map_cons, ih, List.mem_cons, hne,
        false_or]
      split <;> rfl

variable {t : Table}

theorem isDistinct_setEntry (h : (Value.table t).IsDistinct) (key : String) {v : Value}
    (hv : v.IsDistinct) : (Value.table (setEntry t key v)).IsDistinct := by
  rw [Value.isDistinct_table_iff] at h ⊢
  refine ⟨?_, fun e he => ?_⟩
  · rw [map_fst_setEntry]
    split
    · exact h.1
    · rename_i hnew
      refine List.nodup_append.mpr ⟨h.1, List.nodup_singleton key, fun a ha b hb heq => hnew ?_⟩
      rwa [← List.mem_singleton.mp hb, ← heq]
  · obtain he | rfl := mem_setEntry he
    · exact h.2 e he
    · exact hv

/-- A new entry at the end is the same as a new entry that is set. -/
theorem setEntry_of_lookup_eq_none {key : String} (h : t.lookup key = none) (v : Value) :
    setEntry t key v = t ++ [(key, v)] := by
  induction t with
  | nil => rfl
  | cons first rest ih =>
    obtain ⟨name, w⟩ := first
    rw [List.lookup_cons] at h
    by_cases hkey : key = name
    · simp [hkey] at h
    · have hne : (name == key) = false := beq_false_of_ne (Ne.symm hkey)
      rw [beq_false_of_ne hkey] at h
      simp [setEntry, hne, ih h]

theorem isDistinct_addEntry (h : (Value.table t).IsDistinct) {key : String} {v : Value}
    (hv : v.IsDistinct) {t' : Table} (hadd : addEntry key v t = .ok t') :
    (Value.table t').IsDistinct := by
  rw [addEntry] at hadd
  split at hadd
  · cases hadd
  · rename_i hnew
    cases hadd
    rw [← setEntry_of_lookup_eq_none (Option.not_isSome_iff_eq_none.mp hnew)]
    exact isDistinct_setEntry h key hv

theorem isDistinct_addToList (h : (Value.table t).IsDistinct) {key : String} {t' : Table}
    (hadd : addToList key t = .ok t') : (Value.table t').IsDistinct := by
  rw [addToList] at hadd
  split at hadd
  · rename_i hnew
    cases hadd
    rw [← setEntry_of_lookup_eq_none hnew]
    exact isDistinct_setEntry h key (.list (by simp [Value.isDistinct_empty]))
  · rename_i items hitems
    cases hadd
    refine isDistinct_setEntry h key (.list ?_)
    rw [List.forall_mem_append, List.forall_mem_singleton]
    exact ⟨Value.isDistinct_list_iff.mp (h.lookup hitems), Value.isDistinct_empty⟩
  · cases hadd

/-- Whatever keeps the names of a table distinct does so at the end of a way. -/
theorem isDistinct_changeAt {throughLists : Bool} {f : Table → Except Fault Table}
    (hf : ∀ t t', (Value.table t).IsDistinct → f t = .ok t' → (Value.table t').IsDistinct)
    {key : Key} (h : (Value.table t).IsDistinct) {t' : Table}
    (hchange : changeAt throughLists f key t = .ok t') : (Value.table t').IsDistinct := by
  induction key generalizing t t' with
  | nil => exact hf t t' h hchange
  | cons k rest ih =>
    rw [changeAt] at hchange
    split at hchange
    · obtain ⟨inner, hinner, hset⟩ := bind_eq_ok_iff.mp hchange
      cases hset
      exact isDistinct_setEntry h k (ih Value.isDistinct_empty hinner)
    · rename_i old hold
      obtain ⟨inner, hinner, hset⟩ := bind_eq_ok_iff.mp hchange
      cases hset
      exact isDistinct_setEntry h k (ih (h.lookup hold) hinner)
    · rename_i items hitems
      have hold := Value.isDistinct_list_iff.mp (h.lookup hitems)
      split at hchange
      · rename_i last hlast
        obtain ⟨inner, hinner, hset⟩ := bind_eq_ok_iff.mp hchange
        cases hset
        refine isDistinct_setEntry h k (.list ?_)
        rw [List.forall_mem_append, List.forall_mem_singleton]
        exact ⟨fun v hv => hold v (List.mem_of_mem_dropLast hv),
          ih (hold _ (List.mem_of_getLast? hlast)) hinner⟩
      · cases hchange
    · cases hchange

/-! ## Reading values -/

theorem isNested_of_readMoment {cs rest : List Char} {v : Value}
    (h : readMoment cs = some (.ok (v, rest))) : isNested v = false := by
  rw [readMoment] at h
  split at h
  · cases h
  · split at h
    · cases h
    · dsimp only at h
      split at h
      · cases h
        rfl
      · split at h <;> cases h <;> rfl

theorem isNested_of_readDecimal {cs rest : List Char} {v : Value}
    (h : readDecimal cs = some (.ok (v, rest))) : isNested v = false := by
  rw [readDecimal] at h
  dsimp only at h
  obtain ⟨-, h⟩ | ⟨-, h⟩ := ite_eq_iff.mp h
  · cases h
  · obtain ⟨-, h⟩ | ⟨-, h⟩ := ite_eq_iff.mp h
    · generalize Decimal.readDigits _ = digits at h
      cases digits <;> cases h
      rfl
    · cases h
      rfl

theorem isNested_of_readNumberWord {cs rest : List Char} {v : Value}
    (h : readNumberWord cs = some (v, rest)) : isNested v = false := by
  rw [readNumberWord] at h
  obtain ⟨-, h⟩ | ⟨-, h⟩ := ite_eq_iff.mp h
  · cases h
    rfl
  · obtain ⟨-, h⟩ | ⟨-, h⟩ := ite_eq_iff.mp h <;> cases h
    rfl

/-- A value that is read as one without others has no table in it. -/
theorem isNested_of_readScalar {cs rest : List Char} {v : Value}
    (h : readScalar cs = .ok (v, rest)) : isNested v = false := by
  rw [readScalar] at h
  split at h
  · rename_i found htext
    cases found <;> cases h
    rfl
  · obtain ⟨-, h⟩ | ⟨-, h⟩ := ite_eq_iff.mp h
    · cases h
      rfl
    · obtain ⟨-, h⟩ | ⟨-, h⟩ := ite_eq_iff.mp h
      · cases h
        rfl
      · split at h
        · rename_i found hmoment
          exact isNested_of_readMoment (h ▸ hmoment)
        · split at h
          · cases h
            rfl
          · split at h
            · cases h
              rfl
            · split at h
              · rename_i found hdecimal
                exact isNested_of_readDecimal (h ▸ hdecimal)
              · split at h
                · rename_i found hword
                  cases h
                  exact isNested_of_readNumberWord hword
                · cases h

/-- What is read with so much fuel has distinct names; of a table on one line, what was read before
is taken to have them. -/
structure ReadsDistinct (fuel : Nat) : Prop where
  value : ∀ {cs rest : List Char} {v : Value}, readValue fuel cs = .ok (v, rest) → v.IsDistinct
  items : ∀ {cs rest : List Char} {vs : List Value}, readItems fuel cs = .ok (vs, rest) →
    ∀ v ∈ vs, v.IsDistinct
  inline : ∀ {t t' : Table} {closed : List Key} {cs rest : List Char},
    readInline fuel t closed cs = .ok (t', rest) → (Value.table t).IsDistinct →
      (Value.table t').IsDistinct

section Readers

variable {fuel : Nat} (ih : ReadsDistinct fuel) {cs rest : List Char}
include ih

theorem isDistinct_of_readValue {v : Value} (h : readValue (fuel + 1) cs = .ok (v, rest)) :
    v.IsDistinct := by
  rw [readValue.eq_def] at h
  dsimp only at h
  split at h
  · obtain ⟨filled, -, h⟩ := bind_eq_ok_iff.mp h
    split at h
    · cases h
      exact .list (by simp)
    · obtain ⟨⟨items, after⟩, hitems, h⟩ := bind_eq_ok_iff.mp h
      cases h
      exact .list (ih.items hitems)
  · split at h
    · cases h
      exact Value.isDistinct_empty
    · obtain ⟨⟨t, after⟩, htable, h⟩ := bind_eq_ok_iff.mp h
      cases h
      exact ih.inline htable Value.isDistinct_empty
  · exact .leaf (isNested_of_readScalar h)

theorem isDistinct_of_readItems {vs : List Value} (h : readItems (fuel + 1) cs = .ok (vs, rest)) :
    ∀ v ∈ vs, v.IsDistinct := by
  rw [readItems.eq_def] at h
  dsimp only at h
  obtain ⟨⟨first, after⟩, hfirst, h⟩ := bind_eq_ok_iff.mp h
  have hone : ∀ v ∈ [first], v.IsDistinct := by
    simpa using ih.value hfirst
  obtain ⟨filled, -, h⟩ := bind_eq_ok_iff.mp h
  split at h
  · cases h
    exact hone
  · obtain ⟨filled, -, h⟩ := bind_eq_ok_iff.mp h
    split at h
    · cases h
      exact hone
    · obtain ⟨⟨more, after⟩, hmore, h⟩ := bind_eq_ok_iff.mp h
      cases h
      exact List.forall_mem_cons.mpr ⟨ih.value hfirst, ih.items hmore⟩
  · cases h

theorem isDistinct_of_readInline {t t' : Table} {closed : List Key}
    (h : readInline (fuel + 1) t closed cs = .ok (t', rest)) (ht : (Value.table t).IsDistinct) :
    (Value.table t').IsDistinct := by
  rw [readInline.eq_def] at h
  dsimp only at h
  obtain ⟨⟨key, after⟩, -, h⟩ := bind_eq_ok_iff.mp h
  dsimp only at h
  split at h
  · obtain ⟨⟨v, after⟩, hv, h⟩ := bind_eq_ok_iff.mp h
    dsimp only at h
    split at h
    · cases h
    · split at h
      · cases h
      · rename_i last hlast
        obtain ⟨added, hadded, h⟩ := bind_eq_ok_iff.mp h
        have hadd : (Value.table added).IsDistinct :=
          isDistinct_changeAt (fun t t' ht => isDistinct_addEntry ht (ih.value hv)) ht hadded
        split at h
        · cases h
          exact hadd
        · exact ih.inline h hadd
        · cases h
  · cases h

end Readers

/-- With any fuel, what is read has distinct names. -/
theorem readsDistinct (fuel : Nat) : ReadsDistinct fuel := by
  induction fuel with
  | zero =>
    refine ⟨fun h => ?_, fun h => ?_, fun h => ?_⟩
    · cases h
    · cases h
    · cases h
  | succ fuel ih =>
    exact ⟨isDistinct_of_readValue ih, isDistinct_of_readItems ih, isDistinct_of_readInline ih⟩

/-! ## Reading documents -/

/-- What is stated is a value with distinct names, if it is an entry. -/
def Statement.IsDistinct : Statement → Prop
  | .entry _ v => v.IsDistinct
  | _ => True

theorem isDistinct_of_readStatement {cs rest : List Char} {s : Statement}
    (h : readStatement cs = .ok (s, rest)) : s.IsDistinct := by
  rw [readStatement.eq_def] at h
  split at h
  · obtain ⟨⟨key, after⟩, -, h⟩ := bind_eq_ok_iff.mp h
    dsimp only at h
    split at h <;> cases h
    trivial
  · obtain ⟨⟨key, after⟩, -, h⟩ := bind_eq_ok_iff.mp h
    dsimp only at h
    split at h <;> cases h
    trivial
  · obtain ⟨⟨⟨key, v⟩, after⟩, hentry, h⟩ := bind_eq_ok_iff.mp h
    cases h
    rw [readEntry] at hentry
    obtain ⟨⟨key', body⟩, -, hentry⟩ := bind_eq_ok_iff.mp hentry
    dsimp only at hentry
    split at hentry
    · obtain ⟨⟨w, after'⟩, hv, hentry⟩ := bind_eq_ok_iff.mp hentry
      cases hentry
      exact (readsDistinct _).value hv
    · cases hentry

/-- A statement keeps the names in a document distinct. -/
theorem isDistinct_state {d d' : Document} {header header' : Key} {s : Statement}
    (h : (Value.table d.table).IsDistinct) (hs : s.IsDistinct)
    (hstate : d.state header s = .ok (d', header')) : (Value.table d'.table).IsDistinct := by
  cases s with
  | entry key v =>
    obtain ⟨added, hadd, hstate⟩ := bind_eq_ok_iff.mp hstate
    cases hstate
    rw [Document.add] at hadd
    split at hadd
    · cases hadd
    · split at hadd
      · cases hadd
      · obtain ⟨t, ht, hadd⟩ := bind_eq_ok_iff.mp hadd
        cases hadd
        exact isDistinct_changeAt (fun t t' ht => isDistinct_addEntry ht hs) h ht
  | table key =>
    obtain ⟨opened, hopen, hstate⟩ := bind_eq_ok_iff.mp hstate
    cases hstate
    rw [Document.openTable] at hopen
    split at hopen
    · cases hopen
    · obtain ⟨t, ht, hopen⟩ := bind_eq_ok_iff.mp hopen
      cases hopen
      refine isDistinct_changeAt (fun t t' ht hsame => ?_) h ht
      cases hsame
      exact ht
  | listItem key =>
    obtain ⟨opened, hopen, hstate⟩ := bind_eq_ok_iff.mp hstate
    cases hstate
    rw [Document.openListItem] at hopen
    split at hopen
    · cases hopen
    · split at hopen
      · cases hopen
      · obtain ⟨t, ht, hopen⟩ := bind_eq_ok_iff.mp hopen
        cases hopen
        exact isDistinct_changeAt (fun t t' ht => isDistinct_addToList ht) h ht

/-- All statements together keep the names in a document distinct. -/
theorem isDistinct_readStatements {fuel : Nat} {d : Document} {header : Key} {cs : List Char}
    {t : Table} (h : (Value.table d.table).IsDistinct)
    (hread : readStatements fuel d header cs = .ok t) : (Value.table t).IsDistinct := by
  induction fuel generalizing d header cs with
  | zero => cases hread
  | succ fuel ih =>
    rw [readStatements] at hread
    dsimp only at hread
    -- The line has nothing, a comment or a statement; the document is read on in the same way.
    split at hread
    on_goal 2 => split at hread
    on_goal 3 =>
      obtain ⟨⟨s, after⟩, hs, hread⟩ := bind_eq_ok_iff.mp hread
      obtain ⟨⟨d', header'⟩, hstate, hread⟩ := bind_eq_ok_iff.mp hread
      replace h := isDistinct_state h (isDistinct_of_readStatement hs) hstate
    all_goals
      obtain ⟨line, hline, hread⟩ := bind_eq_ok_iff.mp hread
      cases hline
      obtain ⟨behind, -, hread⟩ := bind_eq_ok_iff.mp hread
      split at hread
      · cases hread
        exact h
      · exact ih h hread
      · cases hread

/-- No table in a document has two entries of one name. -/
theorem isDistinct_read {cs : List Char} {t : Table} (h : read cs = .ok t) :
    (Value.table t).IsDistinct :=
  isDistinct_readStatements Value.isDistinct_empty h

end Toml

end LabelTally
