import LabelTally.Occurrence.Search

/-!
# Needles

A needle is a nonempty sequence that is searched for with its own border table. All occurrences are
found from left to right, each starting after the end of the one before.
-/

namespace LabelTally.Occurrence

/-- A nonempty sequence to search for. -/
structure Needle (α : Type) where
  /-- The elements. -/
  items : Array α
  /-- There is at least one. -/
  nonempty : 0 < items.size

namespace Needle

variable {α : Type} [BEq α]

/-- The needle with the given elements, if there are any. -/
def ofArray? {β : Type} (items : Array β) : Option (Needle β) :=
  if h : 0 < items.size then some ⟨items, h⟩ else none

/-- The number of elements. -/
def length {β : Type} (n : Needle β) : Nat := n.items.size

/-- The border table of the needle. -/
def table (n : Needle α) : Array Nat := borderTable n.items

/-- The first occurrence at or after any integer position. -/
def search (n : Needle α) (haystack : Array α) (start : Int) : Except Fault (Option Int) :=
  Occurrence.search haystack n.items (n.table.map Int.ofNat) start

/-- The first occurrence at or after a position of the haystack. -/
def find? (n : Needle α) (haystack : Array α) (start : Nat) : Option Nat :=
  match n.search haystack start with
  | .ok (some p) => some p.toNat
  | _ => none

/-- The occurrences at or after a position, each after the end of the one before. -/
def findAllFrom (n : Needle α) (haystack : Array α) (pos : Nat) : List Nat :=
  match n.find? haystack pos with
  | none => []
  | some p =>
    if _h : pos ≤ p ∧ p < haystack.size then p :: findAllFrom n haystack (p + n.length) else []
termination_by haystack.size - pos
decreasing_by
  have := n.nonempty
  simp only [length]
  omega

/-- The occurrences that do not overlap, from left to right. -/
def findAll (n : Needle α) (haystack : Array α) : List Nat := n.findAllFrom haystack 0

/-- The needle occurs somewhere. -/
def occursIn (n : Needle α) (haystack : Array α) : Bool := (n.find? haystack 0).isSome

end Needle

end LabelTally.Occurrence
