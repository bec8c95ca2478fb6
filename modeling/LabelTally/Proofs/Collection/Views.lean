import LabelTally.Collection.Basic
import Mathlib

/-!
# Views of a collection

A comment is a match that stands in its file at its place and has arguments, and an invalid match is
one that has none. The groups are one for each label in use, in the order in which the labels are
met, and hold all comments with the label in the order of the scan. Adding a comment keeps this, so
it holds after any number of them.
-/

namespace LabelTally

/-- One more item at the end is kept unless it is there already. -/
theorem eraseDups_concat {α : Type} [DecidableEq α] (xs : List α) (x : α) :
    (xs ++ [x]).eraseDups = if x ∈ xs then xs.eraseDups else xs.eraseDups ++ [x] := by
  rw [List.eraseDups_append]
  by_cases hx : x ∈ xs
  · simp [List.removeAll, hx]
  · simp [List.removeAll, hx, List.eraseDups_cons]

/-- The kept items stand in the order in which they are first met. -/
theorem pairwise_idxOf_eraseDups {α : Type} [DecidableEq α] (xs : List α) :
    xs.eraseDups.Pairwise fun x y => xs.idxOf x < xs.idxOf y := by
  induction xs using List.reverseRecOn with
  | nil => simp
  | append_singleton xs x ih =>
    have hkept : xs.eraseDups.Pairwise fun y z => (xs ++ [x]).idxOf y < (xs ++ [x]).idxOf z := by
      refine ih.imp_of_mem fun hy hz hlt => ?_
      rw [List.mem_eraseDups] at hy hz
      rwa [List.idxOf_append_of_mem hy, List.idxOf_append_of_mem hz]
    rw [eraseDups_concat]
    split
    · exact hkept
    · rename_i hx
      refine List.pairwise_append.mpr ⟨hkept, List.pairwise_singleton _ x, fun y hy z hz => ?_⟩
      rw [List.mem_eraseDups] at hy
      rw [List.mem_singleton.mp hz, List.idxOf_append_of_mem hy, List.idxOf_append_of_notMem hx]
      have hlt := List.idxOf_lt_length_of_mem hy
      omega

/-- No item is kept twice. -/
theorem nodup_eraseDups {α : Type} [DecidableEq α] (xs : List α) : xs.eraseDups.Nodup :=
  (pairwise_idxOf_eraseDups xs).imp fun hlt he => by
    rw [he] at hlt
    omega

/-- The comments with a label, in their order. -/
def withLabel (label : String) (ms : List Mention) : List Mention :=
  ms.filter fun m => m.label == label

/-- One more comment at the end belongs to the comments with its own label only. -/
theorem withLabel_concat (label : String) (ms : List Mention) (m : Mention) :
    withLabel label (ms ++ [m]) =
      if m.label = label then withLabel label ms ++ [m] else withLabel label ms := by
  by_cases h : m.label = label <;> simp [withLabel, h]

theorem mem_withLabel {label : String} {ms : List Mention} {m : Mention} :
    m ∈ withLabel label ms ↔ m ∈ ms ∧ m.label = label := by
  simp [withLabel]

/-- The comments with a label are as many as the label occurs. -/
theorem length_withLabel (label : String) (ms : List Mention) :
    (withLabel label ms).length = (ms.map Mention.label).count label := by
  simp only [withLabel, ← List.countP_eq_length_filter, List.count, List.countP_map]
  rfl

/-- The groups of comments by label. -/
structure Grouped (ms : List Mention) (gs : List (String × List Mention)) : Prop where
  /-- Each label in use has one group, and they stand in the order in which labels are met. -/
  keys : gs.map Prod.fst = (ms.map Mention.label).eraseDups
  /-- A group holds the comments with its label. -/
  members : ∀ g ∈ gs, g.2 = withLabel g.1 ms

/-- A comment with a new label makes a new key at the end. -/
theorem keys_addToGroups (gs : List (String × List Mention)) (m : Mention) :
    (addToGroups gs m).map Prod.fst =
      if m.label ∈ gs.map Prod.fst then gs.map Prod.fst else gs.map Prod.fst ++ [m.label] := by
  induction gs with
  | nil => simp [addToGroups]
  | cons g rest ih =>
    by_cases hg : g.1 = m.label
    · simp [addToGroups, hg]
    · have hg' : m.label ≠ g.1 := fun h => hg h.symm
      simp only [addToGroups, beq_iff_eq, hg, ↓reduceIte, List.map_cons, ih, List.mem_cons, hg',
        false_or]
      split <;> rfl

/-- A group after adding a comment is one that was there, with the comment at its end if it is the
group of its label, or the new group of the comment alone. -/
theorem mem_addToGroups {gs : List (String × List Mention)} {m : Mention}
    {g : String × List Mention} (hkeys : (gs.map Prod.fst).Nodup) (hg : g ∈ addToGroups gs m) :
    (g ∈ gs ∧ g.1 ≠ m.label) ∨ (∃ ms, (m.label, ms) ∈ gs ∧ g = (m.label, ms ++ [m])) ∨
      (m.label ∉ gs.map Prod.fst ∧ g = (m.label, [m])) := by
  induction gs with
  | nil => exact Or.inr (Or.inr ⟨by simp, List.mem_singleton.mp hg⟩)
  | cons head rest ih =>
    obtain ⟨hfresh, hrest⟩ := List.nodup_cons.mp hkeys
    by_cases hhead : head.1 = m.label
    · rw [addToGroups, if_pos (beq_iff_eq.mpr hhead)] at hg
      rcases List.mem_cons.mp hg with rfl | hg
      · exact Or.inr (Or.inl ⟨head.2, by rw [← hhead]; exact List.mem_cons_self, by rw [hhead]⟩)
      · refine Or.inl ⟨List.mem_cons_of_mem _ hg, fun h => hfresh ?_⟩
        rw [hhead, ← h]
        exact List.mem_map_of_mem hg
    · rw [addToGroups, if_neg (mt beq_iff_eq.mp hhead)] at hg
      rcases List.mem_cons.mp hg with rfl | hg
      · exact Or.inl ⟨List.mem_cons_self, hhead⟩
      · rcases ih hrest hg with ⟨hmem, hne⟩ | ⟨ms, hmem, rfl⟩ | ⟨hnew, rfl⟩
        · exact Or.inl ⟨List.mem_cons_of_mem _ hmem, hne⟩
        · exact Or.inr (Or.inl ⟨ms, List.mem_cons_of_mem _ hmem, rfl⟩)
        · refine Or.inr (Or.inr ⟨?_, rfl⟩)
          rw [List.map_cons, List.mem_cons, not_or]
          exact ⟨fun h => hhead h.symm, hnew⟩

/-- Adding a comment keeps the groups. -/
theorem Grouped.addToGroups {ms : List Mention} {gs : List (String × List Mention)}
    (h : Grouped ms gs) (m : Mention) : Grouped (ms ++ [m]) (addToGroups gs m) := by
  have hkeys : (gs.map Prod.fst).Nodup := by
    rw [h.keys]
    exact nodup_eraseDups _
  have hin : m.label ∈ gs.map Prod.fst ↔ m.label ∈ ms.map Mention.label := by
    rw [h.keys, List.mem_eraseDups]
  constructor
  · rw [keys_addToGroups, List.map_append, List.map_singleton, eraseDups_concat, h.keys]
    simp only [List.mem_eraseDups]
  · intro g hg
    rw [withLabel_concat]
    rcases mem_addToGroups hkeys hg with ⟨hmem, hne⟩ | ⟨group, hmem, rfl⟩ | ⟨hnew, rfl⟩
    · rw [if_neg hne.symm]
      exact h.members g hmem
    · rw [if_pos rfl, ← h.members _ hmem]
    · have hnone : withLabel m.label ms = [] := by
        refine List.filter_eq_nil_iff.mpr fun m' hm' heq => hnew (hin.mpr ?_)
        rw [← beq_iff_eq.mp heq]
        exact List.mem_map_of_mem hm'
      rw [if_pos rfl, hnone, List.nil_append]

/-- Adding comments one after the other keeps the groups. -/
theorem Grouped.foldl {before : List Mention} {gs : List (String × List Mention)}
    (h : Grouped before gs) (ms : List Mention) :
    Grouped (before ++ ms) (ms.foldl LabelTally.addToGroups gs) := by
  induction ms generalizing before gs with
  | nil => simpa using h
  | cons m rest ih =>
    have hrest := ih (h.addToGroups m)
    rwa [List.append_assoc, List.singleton_append] at hrest

namespace Collection

/-- Comments are the valid matches that stand in the files at their places. -/
theorem mem_mentions {c : Collection} {x : Mention} :
    x ∈ c.mentions ↔ ∃ f, c.files[x.fileIndex]? = some f ∧ f.path = x.path ∧
      f.found[x.matchIndex]? = some x.found ∧ x.found.args? = some x.args := by
  rw [mentions, List.mem_flatMap]
  constructor
  · rintro ⟨⟨f, i⟩, hf, hx⟩
    obtain ⟨⟨m, j⟩, hm, hx⟩ := List.mem_filterMap.mp hx
    obtain ⟨args, hargs, rfl⟩ := Option.map_eq_some_iff.mp hx
    exact ⟨f, List.mem_zipIdx_iff_getElem?.mp hf, rfl, List.mem_zipIdx_iff_getElem?.mp hm, hargs⟩
  · rintro ⟨f, hf, hpath, hm, hargs⟩
    refine ⟨(f, x.fileIndex), List.mem_zipIdx_iff_getElem?.mpr hf, List.mem_filterMap.mpr ?_⟩
    refine ⟨(x.found, x.matchIndex), List.mem_zipIdx_iff_getElem?.mpr hm, ?_⟩
    simp only [hargs, Option.map_some, hpath]

/-- The invalid matches are those that stand in the files and are not valid. -/
theorem mem_invalid {c : Collection} {x : InvalidMention} :
    x ∈ c.invalid ↔ ∃ f, c.files[x.fileIndex]? = some f ∧ f.path = x.path ∧
      f.found[x.matchIndex]? = some x.found ∧ x.found.isValid = false := by
  rw [invalid, List.mem_flatMap]
  constructor
  · rintro ⟨⟨f, i⟩, hf, hx⟩
    obtain ⟨⟨m, j⟩, hm, hx⟩ := List.mem_filterMap.mp hx
    cases hvalid : m.isValid with
    | true => simp [hvalid] at hx
    | false =>
      simp only [hvalid, Bool.false_eq_true, ↓reduceIte, Option.some.injEq] at hx
      subst hx
      exact ⟨f, List.mem_zipIdx_iff_getElem?.mp hf, rfl, List.mem_zipIdx_iff_getElem?.mp hm, hvalid⟩
  · rintro ⟨f, hf, hpath, hm, hvalid⟩
    refine ⟨(f, x.fileIndex), List.mem_zipIdx_iff_getElem?.mpr hf, List.mem_filterMap.mpr ?_⟩
    refine ⟨(x.found, x.matchIndex), List.mem_zipIdx_iff_getElem?.mpr hm, ?_⟩
    simp only [hvalid, Bool.false_eq_true, ↓reduceIte, hpath]

/-- The groups of a collection. -/
theorem groups_grouped (c : Collection) : Grouped c.mentions c.groups := by
  have hnone : Grouped [] [] := ⟨by simp, by simp⟩
  exact hnone.foldl c.mentions

/-- A label has a group exactly if a comment carries it, and the group is that of its comments. -/
theorem mem_groups {c : Collection} {g : String × List Mention} :
    g ∈ c.groups ↔ (∃ m ∈ c.mentions, m.label = g.1) ∧ g.2 = withLabel g.1 c.mentions := by
  have h := c.groups_grouped
  have hkey : g.1 ∈ c.groups.map Prod.fst ↔ ∃ m ∈ c.mentions, m.label = g.1 := by
    rw [h.keys, List.mem_eraseDups, List.mem_map]
  constructor
  · intro hg
    exact ⟨hkey.mp (List.mem_map_of_mem hg), h.members g hg⟩
  · rintro ⟨hlabel, hmembers⟩
    obtain ⟨g', hg', heq⟩ := List.mem_map.mp (hkey.mpr hlabel)
    have hsame : g' = g := by
      refine Prod.ext heq ?_
      rw [h.members g' hg', hmembers, heq]
    exact hsame ▸ hg'

/-- A property of all comments with a common label is one of each group. -/
theorem forall_groups {c : Collection} {P : String × List Mention → Prop} :
    (∀ g ∈ c.groups, P g) ↔ ∀ m ∈ c.mentions, P (m.label, withLabel m.label c.mentions) := by
  constructor
  · intro h m hm
    exact h _ (mem_groups.mpr ⟨⟨m, hm, rfl⟩, rfl⟩)
  · intro h g hg
    obtain ⟨⟨m, hm, hlabel⟩, hmembers⟩ := mem_groups.mp hg
    have hsame : g = (m.label, withLabel m.label c.mentions) := by
      rw [hlabel, ← hmembers]
    exact hsame ▸ h m hm

end Collection

end LabelTally
