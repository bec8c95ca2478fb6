/-!
# Close names

How alike two names are: the share of their characters that stand in common blocks. The longest
common block is taken first, the earliest of several, and then those before and after it.
-/

namespace LabelTally.Command

/-- The number of characters that two texts share at their start. -/
def sharedStart : List Char → List Char → Nat
  | a :: as, b :: bs => if a == b then sharedStart as bs + 1 else 0
  | _, _ => 0

/-- A block that two texts have in common. -/
structure Block where
  /-- Where it starts in the first text. -/
  first : Nat
  /-- Where it starts in the second text. -/
  second : Nat
  /-- Its length. -/
  size : Nat
  deriving Repr, DecidableEq

/-- The longest common block; of several the one that starts first, in the first text and then in
the second. -/
def longestBlock (a b : List Char) : Block :=
  (List.range a.length).foldl
    (fun best i => (List.range b.length).foldl
      (fun best j =>
        let size := sharedStart (a.drop i) (b.drop j)
        if size > best.size then ⟨i, j, size⟩ else best) best)
    ⟨0, 0, 0⟩

/-- The number of characters in common blocks; `fuel` bounds the number of blocks inside each other.
-/
def commonSize : (fuel : Nat) → List Char → List Char → Nat
  | 0, _, _ => 0
  | fuel + 1, a, b =>
    let block := longestBlock a b
    if block.size = 0 then 0
    else
      block.size + commonSize fuel (a.take block.first) (b.take block.second) +
        commonSize fuel (a.drop (block.first + block.size)) (b.drop (block.second + block.size))

/-- A known name, and how alike it is to a given one: of `total` characters, `common` are in common
blocks, each counted in one of the two names. -/
structure Likeness where
  /-- The known name. -/
  name : String
  /-- The characters in common blocks. -/
  common : Nat
  /-- The characters of both names. -/
  total : Nat
  deriving Repr, DecidableEq

/-- The likeness of a known name to a given one. -/
def likeness (given name : String) : Likeness :=
  let a := name.toList
  let b := given.toList
  ⟨name, commonSize a.length a b, a.length + b.length⟩

/-- At least six tenths of the characters are common. -/
def Likeness.isClose (l : Likeness) : Bool := 10 * (2 * l.common) ≥ 6 * l.total

/-- The more alike of two names comes first, and of equally alike ones the later in the alphabet. -/
def Likeness.before (k l : Likeness) : Bool :=
  let left := k.common * l.total
  let right := l.common * k.total
  left > right || (left == right && l.name ≤ k.name)

/-- The known names that are close to a given one, at most three. -/
def closeNames (given : String) (known : List String) : List String :=
  let close := (known.map (likeness given)).filter Likeness.isClose
  ((close.mergeSort Likeness.before).take 3).map Likeness.name

end LabelTally.Command
