import LabelTally.Check.Rules
import LabelTally.Report.Styled
import LabelTally.Text.Lines
import LabelTally.Text.Wrap

/-!
# The label table

One row for each label: the counts that its comments declare, how many comments there are, and in
how many files. The table is drawn with box characters; columns are as wide as their widest cell,
unless the table would be too wide for the console. Then the widest columns give way, and their
cells are broken into lines. A console has room for a character in each column.
-/

namespace LabelTally.Report

/-- The row of a label. -/
structure LabelRow where
  /-- The label. -/
  label : String
  /-- The declared counts in increasing order. -/
  declared : List Int
  /-- The number of comments. -/
  found : Nat
  /-- The number of files with such a comment. -/
  files : Nat
  deriving Repr, DecidableEq

/-- The comments are as many as they all declare. -/
def LabelRow.agrees (r : LabelRow) : Bool := r.declared == [(r.found : Int)]

/-- One more occurrence of a number in a tally. -/
def addToTally (tally : List (Int × Nat)) (n : Int) : List (Int × Nat) :=
  match tally with
  | [] => [(n, 1)]
  | t :: rest => if t.1 == n then (n, t.2 + 1) :: rest else t :: addToTally rest n

/-- How often each number occurs, in the order of first occurrences. -/
def tally (ns : List Int) : List (Int × Nat) := ns.foldl addToTally []

/-- The row of the comments with a label. -/
def LabelRow.ofGroup (default : Int) (label : String) (group : List Mention) : LabelRow :=
  let declared := tally (group.map fun m => m.args.countOr default)
  ⟨label, (declared.map (·.1)).mergeSort fun a b => decide (a ≤ b), group.length,
    (group.map Mention.fileIndex).eraseDups.length⟩

/-- The rows of a collection, by label. -/
def labelRows (default : Int) (c : Collection) : List LabelRow :=
  (c.groups.mergeSort fun a b => decide (a.1 ≤ b.1)).map fun g => LabelRow.ofGroup default g.1 g.2

/-- The declared counts as they are shown. -/
def LabelRow.declaredText (r : LabelRow) : String := Check.joinCounts r.declared

/-- The cells of a row. -/
def LabelRow.cells (r : LabelRow) : List (List Char) :=
  [Text.strip r.label.toList, r.declaredText.toList, (toString r.found).toList,
   (toString r.files).toList]

/-- A column: its title, and whether its cells stand at the right. -/
structure Column where
  /-- The title. -/
  title : String
  /-- Cells stand at the right. -/
  right : Bool
  deriving Repr, DecidableEq

/-- The columns of the table. -/
def columns : List Column :=
  [⟨"Label", false⟩, ⟨"Declared", false⟩, ⟨"Found", true⟩, ⟨"Files", true⟩]

/-- The blanks beside the cells of a column: one at each inner border. -/
def padding (index : Nat) : Nat × Nat :=
  (if index = 0 then 0 else 1, if index + 1 = columns.length then 0 else 1)

/-- The blanks beside the cells of a column, taken together. -/
def paddingWidth (index : Nat) : Nat := (padding index).1 + (padding index).2

/-- Pieces of a line between borders. -/
def border (left middle right : Char) (pieces : List (List Char)) : List Char :=
  left :: (pieces.intersperse [middle]).flatten ++ [right]

/-- A line across the table. -/
def rule (left line middle right : Char) (widths : List Nat) : List Char :=
  border left middle right (widths.map fun w => List.replicate w line)

/-- A row of cells, in as many lines as the cell with the most lines needs. -/
def drawRow (edge : Char) (widths : List Nat) (cells : List (List Char)) : List (List Char) :=
  let wrapped := (columns.zip (widths.zip cells)).mapIdx fun i (c, w, cell) =>
    Text.wrapCell (w - paddingWidth i) c.right cell
  let height := (wrapped.map List.length).foldl max 1
  (List.range height).map fun k =>
    border edge edge edge <| (widths.zip wrapped).mapIdx fun i (w, lines) =>
      let (before, after) := padding i
      List.replicate before ' ' ++
        lines.getD k (List.replicate (w - paddingWidth i) ' ') ++ List.replicate after ' '

/-- The cells that the columns share in a console of a width: all but one for each border. -/
def sharedWidth (width : Nat) : Nat := width - (columns.length + 1)

/-- The cells that a column asks for: those of the widest line in any of its cells, as far as there
are so many to share. -/
def columnWidth (shared : Nat) (rows : List (List (List Char))) (index : Nat) : Nat :=
  let lineWidths := rows.flatMap fun cells =>
    (Text.textLines (cells.getD index [])).map Text.cells
  min (lineWidths.foldl max 0 + paddingWidth index) shared

/-- The integer nearest to a quotient; halfway between two it is the even one. -/
def roundQuotient (n d : Nat) : Nat :=
  let q := n / d
  let twice := 2 * (n % d)
  if twice < d || (twice = d && q % 2 = 0) then q else q + 1

/-- Takes `excess` away from the columns of width `widest`, at most `most` from each. `shares`
counts those that are left. -/
def reduceWidest (widest most : Nat) : (excess shares : Nat) → List Nat → List Nat
  | _, _, [] => []
  | excess, shares, w :: ws =>
    if w = widest && shares ≠ 0 then
      let taken := min most (roundQuotient excess shares)
      (w - taken) :: reduceWidest widest most (excess - taken) (shares - 1) ws
    else w :: reduceWidest widest most excess shares ws

/-- The width of all columns together. -/
def totalWidth (widths : List Nat) : Nat := widths.foldl (· + ·) 0

/-- Makes the widest columns narrower until all fit into the width they share; `fuel` bounds the
rounds. -/
def collapseWidths (shared : Nat) : (fuel : Nat) → List Nat → List Nat
  | 0, widths => widths
  | fuel + 1, widths =>
    let excess := totalWidth widths - shared
    let widest := widths.foldl max 0
    let second := (widths.filter (· ≠ widest)).foldl max 0
    if excess = 0 || widest = second then widths
    else
      let most := min excess (widest - second)
      collapseWidths shared fuel (reduceWidest widest most excess (widths.count widest) widths)

/-- The widths of the columns with the blanks beside their cells. -/
def columnWidths (shared : Nat) (rows : List (List (List Char))) : List Nat :=
  let widths := (List.range columns.length).map (columnWidth shared rows)
  collapseWidths shared (totalWidth widths) widths

/-- A title in the middle of a width. -/
def centre (width : Nat) (title : List Char) : List Char :=
  let spare := width - title.length
  List.replicate (spare / 2) ' ' ++ title ++ List.replicate (spare - spare / 2) ' '

/-- The table as it is printed on a console of a width. -/
def drawTable (width : Nat) (rows : List LabelRow) : String :=
  let titles := columns.map fun c => c.title.toList
  let body := rows.map LabelRow.cells
  let widths := columnWidths (sharedWidth width) (titles :: body)
  let top := rule '┏' '━' '┳' '┓' widths
  let lines := [centre top.length "Labels".toList, top] ++ drawRow '┃' widths titles ++
    [rule '┡' '━' '╇' '┩' widths] ++ body.flatMap (drawRow '│' widths) ++
    [rule '└' '─' '┴' '┘' widths]
  String.ofList (lines.flatMap fun l => l ++ ['\n'])

end LabelTally.Report
