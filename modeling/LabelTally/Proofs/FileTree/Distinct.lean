import LabelTally.FileTree.FileSystem
import Mathlib

/-!
# Trees with distinct names

In a file tree no directory has two entries of one name. An empty directory is such a tree, and it
stays one whatever is written, made or removed.
-/

namespace LabelTally.FileTree

mutual

/-- No directory of the tree has two entries of one name. -/
def Node.IsDistinct : Node → Prop
  | .file _ => True
  | .link _ => True
  | .directory entries => (entries.map Prod.fst).Nodup ∧ Node.AreDistinct entries

/-- No directory below the entries has two entries of one name. -/
def Node.AreDistinct : Entries → Prop
  | [] => True
  | (_, n) :: rest => n.IsDistinct ∧ Node.AreDistinct rest

end

theorem Node.areDistinct_iff {entries : Entries} :
    Node.AreDistinct entries ↔ ∀ e ∈ entries, e.2.IsDistinct := by
  induction entries with
  | nil => simp [Node.AreDistinct]
  | cons e rest ih => simp [Node.AreDistinct, ih]

/-- What a name stands for in a directory has distinct names if the directory has. -/
theorem Node.IsDistinct.lookup {entries : Entries} (h : (Node.directory entries).IsDistinct)
    {name : String} {n : Node} (hname : entries.lookup name = some n) : n.IsDistinct := by
  rw [Node.IsDistinct, Node.areDistinct_iff] at h
  obtain ⟨before, after, hentries, _⟩ := List.lookup_eq_some_iff.mp hname
  exact h.2 (name, n) (hentries ▸ List.mem_append_right _ List.mem_cons_self)

/-- What stands in a tree has distinct names if the tree has. -/
theorem Node.IsDistinct.at? {n m : Node} {names : List String} (h : n.IsDistinct)
    (hat : n.at? names = some m) : m.IsDistinct := by
  induction names generalizing n with
  | nil =>
    cases hat
    exact h
  | cons name rest ih =>
    rw [Node.at?] at hat
    cases hchild : n.child? name with
    | none =>
      rw [hchild] at hat
      cases hat
    | some c =>
      rw [hchild] at hat
      refine ih ?_ hat
      cases n with
      | file content => cases hchild
      | link target => cases hchild
      | directory entries => exact h.lookup hchild

/-- An entry after one was set is one that was there, or the one that was set. -/
theorem Node.mem_setEntry {entries : Entries} {name : String} {node : Node} {e : String × Node}
    (h : e ∈ Node.setEntry entries name node) : e ∈ entries ∨ e = (name, node) := by
  induction entries with
  | nil => exact Or.inr (List.mem_singleton.mp h)
  | cons first rest ih =>
    rw [Node.setEntry] at h
    split at h
    · exact (List.mem_cons.mp h).symm.imp_left (List.mem_cons_of_mem _)
    · rcases List.mem_cons.mp h with rfl | h
      · exact Or.inl List.mem_cons_self
      · exact (ih h).imp_left (List.mem_cons_of_mem _)

/-- Setting an entry keeps names distinct. -/
theorem Node.nodup_setEntry {entries : Entries} (h : (entries.map Prod.fst).Nodup) (name : String)
    (node : Node) : ((Node.setEntry entries name node).map Prod.fst).Nodup := by
  induction entries with
  | nil => exact List.nodup_singleton _
  | cons first rest ih =>
    obtain ⟨hfresh, hrest⟩ := List.nodup_cons.mp h
    rw [Node.setEntry]
    split
    · rename_i hname
      rw [List.map_cons, ← beq_iff_eq.mp hname]
      exact h
    · rename_i hname
      refine List.nodup_cons.mpr ⟨fun hmem => ?_, ih hrest⟩
      obtain ⟨e, he, hfirst⟩ := List.mem_map.mp hmem
      rcases Node.mem_setEntry he with he | rfl
      · exact hfresh (hfirst ▸ List.mem_map_of_mem he)
      · exact hname (beq_iff_eq.mpr hfirst.symm)

/-- A directory keeps distinct names if one of its entries is set. -/
theorem Node.IsDistinct.setEntry {entries : Entries} (h : (Node.directory entries).IsDistinct)
    (name : String) {node : Node} (hnode : node.IsDistinct) :
    (Node.directory (Node.setEntry entries name node)).IsDistinct := by
  rw [Node.IsDistinct, Node.areDistinct_iff] at h ⊢
  refine ⟨Node.nodup_setEntry h.1 name node, fun e he => ?_⟩
  rcases Node.mem_setEntry he with he | rfl
  · exact h.2 e he
  · exact hnode

/-- A tree keeps distinct names if a node is put into it. -/
theorem Node.IsDistinct.put {new n : Node} (h : n.IsDistinct) (hnew : new.IsDistinct)
    (names : List String) : (Node.put new names n).IsDistinct := by
  induction names generalizing n with
  | nil => exact hnew
  | cons name rest ih =>
    cases n with
    | file content => exact h
    | link target => exact h
    | directory entries =>
      refine h.setEntry name (ih ?_)
      cases hold : entries.lookup name with
      | none => simp [Node.IsDistinct, Node.AreDistinct]
      | some old => exact h.lookup hold

/-- A tree keeps distinct names if a node is taken out of it. -/
theorem Node.IsDistinct.erase {n : Node} (h : n.IsDistinct) (names : List String) :
    (Node.erase names n).IsDistinct := by
  fun_induction Node.erase names n with
  | case1 n => exact h
  | case2 name entries =>
    rw [Node.IsDistinct, Node.areDistinct_iff] at h ⊢
    exact ⟨h.1.sublist (List.filter_sublist.map _), fun e he => h.2 e (List.mem_of_mem_filter he)⟩
  | case3 name rest entries _ c hc ih => exact h.setEntry name (ih (h.lookup hc))
  | case4 => exact h
  | case5 => exact h

namespace FileSystem

variable {fs after : FileSystem}

/-- Making the directories on a way keeps names distinct. -/
theorem isDistinct_of_makeWay (h : fs.root.IsDistinct) {here names reached : List String}
    (hway : fs.makeWay here names = .ok (after, reached)) : after.root.IsDistinct := by
  fun_induction FileSystem.makeWay fs here names with
  | case1 fs here =>
    cases hway
    exact h
  | case2 => cases hway
  | case3 fs here name rest names entries _ ih => exact ih h hway
  | case4 => cases hway
  | case5 fs here name rest names _ ih =>
    exact ih (h.put (by simp [Node.IsDistinct, Node.AreDistinct]) names) hway

/-- Names stay distinct if a directory is made. -/
theorem isDistinct_of_makeDirectory (h : fs.root.IsDistinct) {p : Path}
    (hmake : fs.makeDirectory p = .ok after) : after.root.IsDistinct := by
  rw [makeDirectory] at hmake
  split at hmake
  · cases hmake
  · split at hmake
    · rename_i hway
      cases hmake
      exact isDistinct_of_makeWay h hway
    · cases hmake

/-- Names stay distinct if a file is written or a link is put. -/
theorem isDistinct_of_write (h : fs.root.IsDistinct) {p : Path} {new : Node}
    (hnew : new.IsDistinct) (hwrite : fs.write p new = .ok after) : after.root.IsDistinct := by
  rw [write] at hwrite
  split at hwrite
  · cases hwrite
  · split at hwrite
    · cases hwrite
    · split at hwrite
      · cases hwrite
      · rename_i hway
        have hmade := isDistinct_of_makeWay h hway
        split at hwrite <;> cases hwrite
        exact hmade.put hnew _

/-- Names stay distinct if a file or a link is removed. -/
theorem isDistinct_of_remove (h : fs.root.IsDistinct) {p : Path}
    (hremove : fs.remove p = .ok after) : after.root.IsDistinct := by
  rw [remove] at hremove
  split at hremove
  · cases hremove
  · split at hremove <;> cases hremove
    exact h.erase _

end FileSystem

end LabelTally.FileTree
