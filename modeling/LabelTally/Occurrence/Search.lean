import LabelTally.Occurrence.Border

/-!
# Search with a border table

One pass over the haystack. After a mismatch the table tells how much of the needle is still
matched, so no element of the haystack is left twice. The table is an argument: with the needle's
own border table the search always ends and never leaves its sequences; with another table it may
stop with a fault, which is reported as such.
-/

namespace LabelTally.Occurrence

variable {α : Type} [BEq α]

/-- Why a search gives no answer. -/
inductive Fault
  /-- A position lies outside the haystack. -/
  | outsideHaystack
  /-- A position lies outside the needle. -/
  | outsideNeedle
  /-- A position lies outside the table. -/
  | outsideTable
  /-- The table leads round in a circle. -/
  | circle
  deriving Repr, DecidableEq

/-- The element at a position; a position below zero counts from the end. -/
def elementAt? {β : Type} (xs : Array β) (i : Int) : Option β :=
  if 0 ≤ i then xs[i.toNat]?
  else if 0 ≤ xs.size + i then xs[(xs.size + i).toNat]? else none

/-- The search with `matched` elements of the needle matched before position `pos` of the haystack.
At one position the table is consulted at most `budget` times more. -/
def searchFrom (haystack needle : Array α) (table : Array Int) (pos matched : Int) (budget : Nat) :
    Except Fault (Option Int) :=
  if pos < haystack.size then
    match elementAt? haystack pos with
    | none => .error .outsideHaystack
    | some x =>
      match elementAt? needle matched with
      | none => .error .outsideNeedle
      | some y =>
        if x == y then
          if matched + 1 = needle.size then .ok (some (pos + 1 - needle.size))
          else searchFrom haystack needle table (pos + 1) (matched + 1) (table.size + 1)
        else if matched = 0 then
          searchFrom haystack needle table (pos + 1) 0 (table.size + 1)
        else
          match elementAt? table (matched - 1), budget with
          | none, _ => .error .outsideTable
          | some _, 0 => .error .circle
          | some shorter, budget + 1 => searchFrom haystack needle table pos shorter budget
  else .ok none
termination_by ((haystack.size - pos).toNat, budget)

/-- The first occurrence of the needle at or after `start`. An empty needle, and one longer than
what is left of the haystack, has none. -/
def search (haystack needle : Array α) (table : Array Int) (start : Int) :
    Except Fault (Option Int) :=
  if needle.size = 0 ∨ haystack.size - start < needle.size then .ok none
  else searchFrom haystack needle table start 0 (table.size + 1)

end LabelTally.Occurrence
