import LabelTally.Report.Render
import LabelTally.Proofs.Report.Sources

/-!
# The text of a message

The text of a message is its heading, then one block for each place, then the remarks. All gutters
of a message are as wide as the widest line number. Of what is added to a text, the characters that
are not sent to a terminal are left out; the gutters and the carets have none of them.
-/

namespace LabelTally.Report

open Text

/-- Characters are left out one by one. -/
theorem strip_append (left right : List Char) : strip (left ++ right) = strip left ++ strip right :=
  List.filter_append ..

/-- A text is kept exactly if it has none of the characters that are left out. -/
theorem strip_eq_self_iff {cs : List Char} : strip cs = cs ↔ ∀ c ∈ cs, isStripped c = false := by
  simp [strip, List.filter_eq_self]

/-- No character that is left out remains. -/
theorem isStripped_of_mem_strip {cs : List Char} {c : Char} (h : c ∈ strip cs) :
    isStripped c = false := by
  simpa using (List.mem_filter.mp h).2

/-- What is kept and what is left out make up the text. -/
theorem length_strip (cs : List Char) : (strip cs).length + cs.countP isStripped = cs.length := by
  rw [strip, ← List.countP_eq_length_filter, Nat.add_comm,
    List.length_eq_countP_add_countP isStripped]
  simp

/-- A text is added at the end, without the characters that are left out. -/
@[simp]
theorem Styled.plain_add (t : Styled) (text : String) (look : Option Look) :
    (t.add text look).plain = t.plain ++ strip text.toList := by
  rw [Styled.add]
  split
  · rename_i hempty
    rw [String.isEmpty_iff.mp hempty]
    simp [strip]
  · rfl

/-- Equal characters are kept, unless they are left out. -/
theorem strip_replicate {c : Char} (h : isStripped c = false) (n : Nat) :
    strip (List.replicate n c) = List.replicate n c :=
  strip_eq_self_iff.mpr fun d hd => by rw [List.eq_of_mem_replicate hd, h]

theorem isDigit_of_mem_toString {k : Nat} {c : Char} (h : c ∈ (toString k).toList) :
    c.isDigit = true :=
  Nat.isDigit_of_mem_toDigits (by decide) (by decide) (Nat.toList_repr ▸ h)

/-- Line numbers are kept. -/
theorem strip_toString (n : Nat) : strip (toString n).toList = (toString n).toList := by
  refine strip_eq_self_iff.mpr fun c hc => ?_
  have hbound : 48 ≤ c.toNat := (Char.isDigit_iff_toNat.mp (isDigit_of_mem_toString hc)).1
  simp only [isStripped, List.contains_eq_mem, List.mem_cons, List.not_mem_nil, or_false,
    decide_eq_false_iff_not]
  omega

/-- The text of the block of one place. -/
structure Block where
  /-- The lines with the path and the place. -/
  head : List Char
  /-- The gutter with the line number. -/
  numberGutter : List Char
  /-- The line of the file. -/
  source : List Char
  /-- The gutter below the line number. -/
  caretGutter : List Char
  /-- The carets, behind as many blanks as are needed. -/
  carets : List Char

/-- The characters of a block. -/
def Block.text (b : Block) : List Char :=
  b.head ++ (b.numberGutter ++ b.source ++ ['\n']) ++ (b.caretGutter ++ b.carets ++ ['\n'])

/-- The block of a place, with gutters of a width. -/
def block (gutter : Nat) (path : String) (l : Located) : Block where
  head := strip (blanks gutter ++ "--> " ++
    (path ++ ":" ++ toString l.line ++ ":" ++ toString l.column ++ "\n") ++
    (blanks gutter ++ " |\n")).toList
  numberGutter := List.replicate (gutter - (toString l.line).length) ' ' ++
    (toString l.line).toList ++ [' ', '|', ' ']
  source := strip l.text
  caretGutter := List.replicate gutter ' ' ++ [' ', '|', ' ']
  carets := List.replicate (l.column - 1) ' ' ++ List.replicate l.width '^'

theorem toList_blanks (n : Nat) : (blanks n).toList = List.replicate n ' ' := by
  simp [blanks]

/-- A place adds its block. -/
theorem plain_addPlace (gutter : Nat) (t : Styled) (path : String) (l : Located) :
    (addPlace gutter t path l).plain = t.plain ++ (block gutter path l).text := by
  have hblank : isStripped ' ' = false := by decide
  have hcaret : isStripped '^' = false := by decide
  have hbar : strip " | ".toList = [' ', '|', ' '] := rfl
  have hline : strip "\n".toList = ['\n'] := rfl
  simp only [addPlace, Styled.plain_add, block, Block.text, numberInGutter, String.toList_append,
    strip_append, toList_blanks, strip_replicate hblank, strip_replicate hcaret, strip_toString,
    String.toList_ofList, hbar, hline, List.append_assoc]

/-- Places add their blocks one after the other. -/
theorem plain_foldl_addPlace (gutter : Nat) (places : List (String × Located)) (t : Styled) :
    (places.foldl (fun t p => addPlace gutter t p.1 p.2) t).plain =
      t.plain ++ (places.map fun p => block gutter p.1 p.2).flatMap Block.text := by
  induction places generalizing t with
  | nil => simp
  | cons p rest ih =>
    rw [List.foldl_cons, ih, plain_addPlace, List.map_cons, List.flatMap_cons, List.append_assoc]

/-- A remark is added behind what is there. -/
theorem prefix_addRemark (gutter : Nat) (t : Styled) (remark : String) :
    t.plain <+: (addRemark gutter t remark).plain := by
  rw [addRemark, Styled.plain_add, Styled.plain_add, List.append_assoc]
  exact List.prefix_append _ _

/-- Notes are added behind what is there. -/
theorem prefix_foldl_addRemark (gutter : Nat) (notes : List String) (t : Styled) :
    t.plain <+: (notes.foldl (fun t n => addRemark gutter t ("note: " ++ n)) t).plain := by
  induction notes generalizing t with
  | nil => exact List.prefix_rfl
  | cons n rest ih => exact (prefix_addRemark gutter t _).trans (ih _)

/-- The text of a message is its heading, the blocks of its places, and remarks. -/
theorem exists_plain_layOut (d : Diagnostic) (places : List (String × Located)) :
    ∃ remarks, (layOut d places).plain = (heading d).plain ++
      (places.map fun p => block (gutterWidth (places.map (·.2))) p.1 p.2).flatMap Block.text ++
        remarks := by
  rw [layOut, ← plain_foldl_addPlace]
  generalize places.foldl _ _ = t
  have hnotes := prefix_foldl_addRemark (gutterWidth (places.map (·.2))) d.notes t
  cases d.suggestion with
  | none =>
    obtain ⟨remarks, hremarks⟩ := hnotes
    exact ⟨remarks, hremarks.symm⟩
  | some s =>
    obtain ⟨remarks, hremarks⟩ := hnotes.trans (prefix_addRemark _ _ _)
    exact ⟨remarks, hremarks.symm⟩

/-- The greatest of several numbers is not below any of them. -/
theorem le_foldl_max (ns : List Nat) (start : Nat) :
    start ≤ ns.foldl max start ∧ ∀ n ∈ ns, n ≤ ns.foldl max start := by
  induction ns generalizing start with
  | nil => simp
  | cons n rest ih =>
    obtain ⟨hstart, hrest⟩ := ih (max start n)
    refine ⟨(Nat.le_max_left _ _).trans hstart, List.forall_mem_cons.mpr ⟨?_, hrest⟩⟩
    exact (Nat.le_max_right _ _).trans hstart

/-- Each line number fits in the gutter. -/
theorem length_le_gutterWidth {found : List Located} {l : Located} (h : l ∈ found) :
    (toString l.line).length ≤ gutterWidth found :=
  (le_foldl_max _ 1).2 _ (List.mem_map.mpr ⟨l, h, rfl⟩)

/-- Where a location stands in the bytes that are kept of its file. -/
def Sources.place (s : Sources) (l : Check.Location) : Located :=
  Report.locate ((s.kept? l.path).getD []) l.span

/-- Locations in files whose bytes are kept are looked up in them, and nothing changes. -/
theorem Sources.locateAll_of_kept {s : Sources} (fs : FileTree.FileSystem)
    {locations : List Check.Location} (h : ∀ l ∈ locations, (s.kept? l.path).isSome) :
    s.locateAll fs locations = (s, .ok (locations.map s.place)) := by
  induction locations with
  | nil => rfl
  | cons l rest ih =>
    obtain ⟨hl, hrest⟩ := List.forall_mem_cons.mp h
    obtain ⟨data, hdata⟩ := Option.isSome_iff_exists.mp hl
    rw [locateAll, locate_of_kept hdata fs]
    dsimp only
    rw [ih hrest, List.map_cons, place, hdata]
    rfl

/-- A message about files whose bytes are kept is laid out, and nothing changes. -/
theorem render_of_kept {s : Sources} {fs : FileTree.FileSystem} {d : Diagnostic}
    (h : ∀ l ∈ d.locations, (s.kept? l.path).isSome) {shown : List String}
    (hshown : displayAll fs (d.locations.map (·.path)) = .ok shown) :
    render fs s d = (s, .ok (layOut d (shown.zip (d.locations.map s.place)))) := by
  rw [render, Sources.locateAll_of_kept fs h]
  dsimp only
  rw [hshown]

/-- As many paths are shown as there are. -/
theorem length_displayAll {fs : FileTree.FileSystem} {paths : List Path} {shown : List String}
    (h : displayAll fs paths = .ok shown) : shown.length = paths.length := by
  induction paths generalizing shown with
  | nil =>
    cases h
    rfl
  | cons p rest ih =>
    simp only [displayAll, bind, Except.bind] at h
    split at h
    · cases h
    · split at h
      · cases h
      · rename_i more hmore
        cases h
        rw [List.length_cons, List.length_cons, ih hmore]

end LabelTally.Report
