import LabelTally.Proofs.Collection.Views

/-!
# The views share out the matches

All matches of a collection, file by file, stand at places that increase. The comments and the
invalid matches are the two halves of this list, so nothing is lost between them and nothing is in
both. The groups in turn share out the comments by their labels.
-/

namespace LabelTally

open Comment (Match)

/-- The place of a comment in its collection: its file, and its index there. -/
def Mention.place (m : Mention) : Nat × Nat := (m.fileIndex, m.matchIndex)

/-- The place of an invalid match in its collection. -/
def InvalidMention.place (m : InvalidMention) : Nat × Nat := (m.fileIndex, m.matchIndex)

namespace Collection

variable (c : Collection)

/-- The match at a place. -/
def at? (p : Nat × Nat) : Option Match := c.files[p.1]?.bind fun f => f.found[p.2]?

/-- All matches with their places, file by file. -/
def placed : List ((Nat × Nat) × Match) :=
  c.files.zipIdx.flatMap fun f => f.1.found.zipIdx.map fun m => ((f.2, m.2), m.1)

/-- A match stands at its place. -/
theorem mem_placed {p : Nat × Nat} {m : Match} : (p, m) ∈ c.placed ↔ c.at? p = some m := by
  simp only [placed, at?, List.mem_flatMap, List.mem_map, Option.bind_eq_some_iff]
  constructor
  · rintro ⟨⟨f, i⟩, hf, ⟨m', j⟩, hm, heq⟩
    cases heq
    exact ⟨f, List.mem_zipIdx_iff_getElem?.mp hf, List.mem_zipIdx_iff_getElem?.mp hm⟩
  · rintro ⟨f, hf, hm⟩
    exact ⟨(f, p.1), List.mem_zipIdx_iff_getElem?.mpr hf, (m, p.2),
      List.mem_zipIdx_iff_getElem?.mpr hm, rfl⟩

/-- Indices increase along a list. -/
theorem pairwise_zipIdx {α : Type} (xs : List α) :
    xs.zipIdx.Pairwise fun x y => x.2 < y.2 := by
  have hindices := List.pairwise_lt_range' (s := 0) (n := xs.length)
  rwa [← List.zipIdx_map_snd 0 xs, List.pairwise_map] at hindices

/-- Places increase, first from file to file and then within a file. -/
theorem pairwise_placed :
    (c.placed.map Prod.fst).Pairwise (Prod.Lex (· < ·) (· < ·)) := by
  rw [List.pairwise_map, placed, List.pairwise_flatMap]
  constructor
  · intro f _
    rw [List.pairwise_map]
    refine (pairwise_zipIdx f.1.found).imp fun hlt => ?_
    exact Prod.Lex.right f.2 hlt
  · refine (pairwise_zipIdx c.files).imp fun hlt x hx y hy => ?_
    obtain ⟨m, _, rfl⟩ := List.mem_map.mp hx
    obtain ⟨m', _, rfl⟩ := List.mem_map.mp hy
    exact Prod.Lex.left m.2 m'.2 hlt

/-- All matches are counted. -/
theorem length_placed : c.placed.length = c.total := by
  rw [placed, total, List.length_flatMap, List.length_flatMap]
  simp only [List.length_map, List.length_zipIdx]
  conv_rhs => rw [← List.zipIdx_map_fst 0 c.files, List.map_map]
  rfl

/-- Items that are built from some of a list stand where these are, if the items of the others are
left out. -/
theorem map_filterMap_eq_map_filter {α β γ : Type} {f : α → Option β} {place : β → γ}
    {keep : α → Bool} {spot : α → γ}
    (h : ∀ x, (f x).map place = if keep x then some (spot x) else none) (xs : List α) :
    (xs.filterMap f).map place = (xs.filter keep).map spot := by
  induction xs with
  | nil => rfl
  | cons x xs ih =>
    have hx := h x
    cases hf : f x <;> cases hkeep : keep x <;> simp_all

/-- The comments stand at the places of the valid matches. -/
theorem map_place_mentions :
    c.mentions.map Mention.place = (c.placed.filter fun e => e.2.isValid).map Prod.fst := by
  rw [mentions, placed, List.map_flatMap, List.filter_flatMap, List.map_flatMap]
  refine List.flatMap_congr fun f _ => ?_
  rw [List.filter_map, List.map_map]
  refine map_filterMap_eq_map_filter (fun m => ?_) f.1.found.zipIdx
  cases hargs : m.1.args? <;> simp [Match.isValid, hargs, Mention.place]

/-- The invalid matches stand at the places of the other matches. -/
theorem map_place_invalid :
    c.invalid.map InvalidMention.place =
      (c.placed.filter fun e => !e.2.isValid).map Prod.fst := by
  rw [invalid, placed, List.map_flatMap, List.filter_flatMap, List.map_flatMap]
  refine List.flatMap_congr fun f _ => ?_
  rw [List.filter_map, List.map_map]
  refine map_filterMap_eq_map_filter (fun m => ?_) f.1.found.zipIdx
  cases hvalid : m.1.isValid <;> simp [hvalid, InvalidMention.place]

/-- A place is that of a comment exactly if the match there is valid. -/
theorem mem_map_place_mentions {p : Nat × Nat} :
    p ∈ c.mentions.map Mention.place ↔ ∃ m, c.at? p = some m ∧ m.isValid = true := by
  simp [map_place_mentions, mem_placed]

/-- A place is that of an invalid match exactly if the match there is not valid. -/
theorem mem_map_place_invalid {p : Nat × Nat} :
    p ∈ c.invalid.map InvalidMention.place ↔ ∃ m, c.at? p = some m ∧ m.isValid = false := by
  simp [map_place_invalid, mem_placed]

/-- No place is that of a comment and of an invalid match. -/
theorem disjoint_places :
    (c.mentions.map Mention.place).Disjoint (c.invalid.map InvalidMention.place) := by
  intro p hmention hinvalid
  obtain ⟨m, hm, hvalid⟩ := c.mem_map_place_mentions.mp hmention
  obtain ⟨m', hm', hnot⟩ := c.mem_map_place_invalid.mp hinvalid
  obtain rfl : m = m' := Option.some.inj (hm.symm.trans hm')
  exact Bool.false_ne_true (hnot.symm.trans hvalid)

/-- The places with a match are those of the comments and of the invalid matches. -/
theorem exists_at?_iff {p : Nat × Nat} : (∃ m, c.at? p = some m) ↔
    p ∈ c.mentions.map Mention.place ∨ p ∈ c.invalid.map InvalidMention.place := by
  rw [mem_map_place_mentions, mem_map_place_invalid, ← exists_or]
  refine exists_congr fun m => ?_
  cases m.isValid <;> simp

/-- The comments and the invalid matches are as many as the matches. -/
theorem total_eq_add : c.total = c.mentions.length + c.invalid.length := by
  have hmentions := congrArg List.length c.map_place_mentions
  have hinvalid := congrArg List.length c.map_place_invalid
  rw [List.length_map, List.length_map, ← List.countP_eq_length_filter] at hmentions hinvalid
  rw [hmentions, hinvalid, ← length_placed]
  simpa using List.length_eq_countP_add_countP (fun e : (Nat × Nat) × Match => e.2.isValid)

/-- The comments and the invalid matches of a collection share out its matches. -/
structure ViewsPartition : Prop where
  /-- The comments come in the order of their places, none of them twice. -/
  mentions_increase : (c.mentions.map Mention.place).Pairwise (Prod.Lex (· < ·) (· < ·))
  /-- So do the invalid matches. -/
  invalid_increase : (c.invalid.map InvalidMention.place).Pairwise (Prod.Lex (· < ·) (· < ·))
  /-- No place is that of a comment and of an invalid match. -/
  disjoint : (c.mentions.map Mention.place).Disjoint (c.invalid.map InvalidMention.place)
  /-- A place has a match exactly if it is that of a comment or of an invalid match. -/
  exhaustive : ∀ p, (∃ m, c.at? p = some m) ↔
    p ∈ c.mentions.map Mention.place ∨ p ∈ c.invalid.map InvalidMention.place
  /-- A comment has the arguments of the match at its place. -/
  mentions_read : ∀ x ∈ c.mentions, (c.at? x.place).bind Match.args? = some x.args
  /-- The match at the place of an invalid match has no arguments. -/
  invalid_read : ∀ x ∈ c.invalid, (c.at? x.place).bind Match.args? = none
  /-- All matches are counted once. -/
  counted : c.total = c.mentions.length + c.invalid.length

/-- The groups share out the comments by their labels. -/
structure GroupsPartition (ms : List Mention) (gs : List (String × List Mention)) : Prop where
  /-- Each group has a comment. -/
  nonempty : ∀ g ∈ gs, g.2 ≠ []
  /-- No two groups have the same label. -/
  distinct : (gs.map Prod.fst).Nodup
  /-- The groups come in the order in which their labels are met first. -/
  ordered : (gs.map Prod.fst).Pairwise fun label label' =>
    (ms.map Mention.label).idxOf label < (ms.map Mention.label).idxOf label'
  /-- A comment is in the group of its label and in no other. -/
  unique : ∀ m ∈ ms, ∃ g ∈ gs, g.1 = m.label ∧ m ∈ g.2 ∧ ∀ g' ∈ gs, m ∈ g'.2 → g' = g
  /-- A group has the comments with its label in their order. -/
  members : ∀ g ∈ gs, g.2 = ms.filter fun m => m.label == g.1

/-- The comments and the invalid matches share out the matches of a collection, and the groups share
out the comments by their labels. -/
theorem views_partition : c.ViewsPartition ∧ GroupsPartition c.mentions c.groups := by
  constructor
  · refine ⟨?_, ?_, c.disjoint_places, fun _ => c.exists_at?_iff, fun x hx => ?_, fun x hx => ?_,
      c.total_eq_add⟩
    · rw [map_place_mentions]
      exact c.pairwise_placed.sublist (List.filter_sublist.map _)
    · rw [map_place_invalid]
      exact c.pairwise_placed.sublist (List.filter_sublist.map _)
    · obtain ⟨f, hf, -, hm, hargs⟩ := mem_mentions.mp hx
      simp [at?, Mention.place, hf, hm, hargs]
    · obtain ⟨f, hf, -, hm, hvalid⟩ := mem_invalid.mp hx
      simpa [at?, InvalidMention.place, hf, hm, Match.isValid] using hvalid
  · have hkeys := c.groups_grouped.keys
    refine ⟨fun g hg => ?_, ?_, ?_, fun m hm => ?_, fun g hg => (mem_groups.mp hg).2⟩
    · obtain ⟨⟨m, hm, hlabel⟩, hmembers⟩ := mem_groups.mp hg
      rw [hmembers]
      exact List.ne_nil_of_mem (mem_withLabel.mpr ⟨hm, hlabel⟩)
    · rw [hkeys]
      exact nodup_eraseDups _
    · rw [hkeys]
      exact pairwise_idxOf_eraseDups _
    · refine ⟨(m.label, withLabel m.label c.mentions), mem_groups.mpr ⟨⟨m, hm, rfl⟩, rfl⟩, rfl,
        mem_withLabel.mpr ⟨hm, rfl⟩, fun g hg hmg => ?_⟩
      -- A group with the comment has its label, and the label tells the group.
      have hmembers := (mem_groups.mp hg).2
      rw [hmembers] at hmg
      rw [(mem_withLabel.mp hmg).2, ← hmembers]

end Collection

end LabelTally
