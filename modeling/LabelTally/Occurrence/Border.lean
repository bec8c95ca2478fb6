/-!
# Border tables

A border of a sequence is a proper prefix that is also a suffix. The table of a needle gives, for
every nonempty prefix of it, the length of the longest border. It is built from left to right: a
border of the next prefix extends a border of the last one.
-/

namespace LabelTally.Occurrence

variable {α : Type} [BEq α]

/-- The longest border that ends with `x`, trying to extend a border of length `border` and then the
borders of that border. -/
def extendBorder (needle : Array α) (table : Array Nat) (x : α) (border : Nat) : Nat :=
  if needle[border]? == some x then border + 1
  else if border = 0 then 0
  else
    match table[border - 1]? with
    | some shorter => if shorter < border then extendBorder needle table x shorter else 0
    | none => 0
termination_by border

/-- The table of the first elements, extended by the elements that follow. -/
def extendTable (needle : Array α) (table : Array Nat) : List α → Array Nat
  | [] => table
  | x :: rest =>
    extendTable needle (table.push (extendBorder needle table x (table.back?.getD 0))) rest

/-- The border table of a needle. -/
def borderTable (needle : Array α) : Array Nat :=
  match needle.toList with
  | [] => #[]
  | _ :: rest => extendTable needle #[0] rest

end LabelTally.Occurrence
