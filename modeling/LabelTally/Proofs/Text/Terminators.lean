import LabelTally.Proofs.Text.Lines

/-!
# Lines and their terminators

A line of a file is a body without terminating bytes and a line feed, a carriage return, or both
behind it; only the last line can lack them. A carriage return ends a line alone only where no line
feed follows it. There is one way to cut a file like this, so pieces of this kind are the lines of
the file that they make up.
-/

namespace LabelTally.Text

/-- The bytes of a line before its terminator. -/
def lineBody (line : List UInt8) : List UInt8 := line.takeWhile fun b => !decide (IsTerminator b)

/-- The terminator of a line. -/
def lineEnding (line : List UInt8) : List UInt8 := line.dropWhile fun b => !decide (IsTerminator b)

/-- A line is its body and its terminator. -/
theorem lineBody_append_lineEnding (line : List UInt8) : lineBody line ++ lineEnding line = line :=
  List.takeWhile_append_dropWhile

/-- The body of a line has no terminator. -/
theorem not_isTerminator_of_mem_lineBody {line : List UInt8} {b : UInt8} (h : b ∈ lineBody line) :
    ¬IsTerminator b := by
  simpa using List.mem_takeWhile_imp h

/-- Bytes without terminator and what is put behind them, if that is a terminator or nothing. -/
theorem lineEnding_append {body ending : List UInt8} (hfree : ∀ b ∈ body, ¬IsTerminator b)
    (hending : ∀ b ∈ ending.head?, IsTerminator b) :
    lineBody (body ++ ending) = body ∧ lineEnding (body ++ ending) = ending := by
  have hbody : ∀ b ∈ body, (!decide (IsTerminator b)) = true := by simpa using hfree
  have hstop : ending.takeWhile (fun b => !decide (IsTerminator b)) = [] := by
    cases ending with
    | nil => rfl
    | cons b rest => simp [hending b rfl]
  have hkept : ending.dropWhile (fun b => !decide (IsTerminator b)) = ending := by
    cases ending with
    | nil => rfl
    | cons b rest => simp [hending b rfl]
  rw [lineBody, lineEnding, List.takeWhile_append_of_pos hbody, List.dropWhile_append_of_pos hbody,
    hstop, hkept, List.append_nil]
  exact ⟨rfl, rfl⟩

/-- The terminators that a line can have. -/
inductive IsEnding : List UInt8 → Prop
  /-- None, at the end of the file. -/
  | missing : IsEnding []
  /-- A line feed. -/
  | feed : IsEnding [lineFeed]
  /-- A carriage return. -/
  | carriage : IsEnding [carriageReturn]
  /-- A carriage return and a line feed. -/
  | both : IsEnding [carriageReturn, lineFeed]

/-- The line feed is a terminator. -/
theorem isTerminator_lineFeed : IsTerminator lineFeed := Or.inl rfl

/-- The carriage return is a terminator. -/
theorem isTerminator_carriageReturn : IsTerminator carriageReturn := Or.inr rfl

/-- A line feed stands in the terminator of a line, if in the line. -/
theorem mem_lineEnding_iff {line : List UInt8} : lineFeed ∈ lineEnding line ↔ lineFeed ∈ line := by
  conv_rhs => rw [← lineBody_append_lineEnding line, List.mem_append]
  refine (or_iff_right fun hb => ?_).symm
  exact not_isTerminator_of_mem_lineBody hb isTerminator_lineFeed

/-- A terminator consists of terminating bytes. -/
theorem IsEnding.isTerminator {ending : List UInt8} (h : IsEnding ending) :
    ∀ b ∈ ending, IsTerminator b := by
  cases h <;> simp [isTerminator_lineFeed, isTerminator_carriageReturn]

/-- A line is cut behind its terminator. -/
theorem isEnding_lineEnding {body ending : List UInt8} (hfree : ∀ b ∈ body, ¬IsTerminator b)
    (hending : IsEnding ending) : IsEnding (lineEnding (body ++ ending)) := by
  rw [(lineEnding_append hfree fun b hb => hending.isTerminator b (List.mem_of_mem_head? hb)).2]
  exact hending

/-- Lines are cut behind their terminators; the open line has none so far. -/
theorem isEnding_linesFrom {current : List UInt8} (hfree : ∀ b ∈ current, ¬IsTerminator b)
    (bytes : List UInt8) : ∀ line ∈ linesFrom current bytes, IsEnding (lineEnding line) := by
  have hopen : ∀ {current : List UInt8}, (∀ b ∈ current, ¬IsTerminator b) →
      ∀ b ∈ current.reverse, ¬IsTerminator b :=
    fun hfree b hb => hfree b (List.mem_reverse.mp hb)
  have hsingle : ∀ {b : UInt8}, IsTerminator b → IsEnding [b] := by
    rintro b (rfl | rfl)
    · exact .feed
    · exact .carriage
  have hempty : ∀ b ∈ ([] : List UInt8), ¬IsTerminator b := by simp
  fun_induction linesFrom current bytes with
  | case1 current hempty => simp
  | case2 current hne =>
    refine List.forall_mem_singleton.mpr ?_
    have hline := isEnding_lineEnding (hopen hfree) .missing
    rwa [List.append_nil] at hline
  | case3 current b =>
    refine List.forall_mem_singleton.mpr ?_
    by_cases hb : IsTerminator b
    · rw [List.reverse_cons]
      exact isEnding_lineEnding (hopen hfree) (hsingle hb)
    · have hline := isEnding_lineEnding (hopen (List.forall_mem_cons.mpr ⟨hb, hfree⟩)) .missing
      rwa [List.append_nil] at hline
  | case4 current b b' rest hpair ih =>
    obtain ⟨rfl, rfl⟩ := hpair
    refine List.forall_mem_cons.mpr ⟨?_, ih hempty⟩
    rw [List.reverse_cons, List.reverse_cons, List.append_assoc]
    exact isEnding_lineEnding (hopen hfree) .both
  | case5 current b b' rest hpair hend ih =>
    refine List.forall_mem_cons.mpr ⟨?_, ih hempty⟩
    rw [List.reverse_cons]
    exact isEnding_lineEnding (hopen hfree) (hsingle hend)
  | case6 current b b' rest hpair hend ih => exact ih (List.forall_mem_cons.mpr ⟨hend, hfree⟩)

/-- The lines of a file are cut behind their terminators. -/
theorem isEnding_lines {bytes line : List UInt8} (h : line ∈ lines bytes) :
    IsEnding (lineEnding line) :=
  isEnding_linesFrom (by simp) bytes line h

/-- What is cut off as a line is not empty. -/
theorem ne_nil_of_mem_linesFrom (current bytes : List UInt8) :
    ∀ line ∈ linesFrom current bytes, line ≠ [] := by
  fun_induction linesFrom current bytes with
  | case1 current hempty => simp
  | case2 current hne => simpa using hne
  | case3 current b => simp
  | case4 current b b' rest hpair ih => exact List.forall_mem_cons.mpr ⟨by simp, ih⟩
  | case5 current b b' rest hpair hend ih => exact List.forall_mem_cons.mpr ⟨by simp, ih⟩
  | case6 current b b' rest hpair hend ih => exact ih

/-- No line of a file is empty. -/
theorem ne_nil_of_mem_lines {bytes line : List UInt8} (h : line ∈ lines bytes) : line ≠ [] :=
  ne_nil_of_mem_linesFrom [] bytes line h

/-- The first line begins with the first byte. -/
theorem head?_of_mem_head?_lines {b : UInt8} {rest line : List UInt8}
    (h : line ∈ (lines (b :: rest)).head?) : line.head? = some b := by
  have hflat := flatten_lines (b :: rest)
  cases hlines : lines (b :: rest) with
  | nil => simp [hlines] at h
  | cons first others =>
    rw [hlines] at h hflat
    cases h
    cases line with
    | nil => exact absurd rfl (ne_nil_of_mem_lines (hlines ▸ List.mem_cons_self))
    | cons c line => exact congrArg some (List.cons.inj hflat).1

/-- Between two lines of a file stands a terminator, and a lone carriage return only where no line
feed follows. -/
def IsCut (line next : List UInt8) : Prop :=
  lineEnding line ≠ [] ∧ (lineEnding line = [carriageReturn] → next.head? ≠ some lineFeed)

/-- Lines are cut wherever there is a terminator. -/
theorem isChain_linesFrom {current : List UInt8} (hfree : ∀ b ∈ current, ¬IsTerminator b)
    (bytes : List UInt8) : (linesFrom current bytes).IsChain IsCut := by
  have hempty : ∀ b ∈ ([] : List UInt8), ¬IsTerminator b := by simp
  have hending : ∀ {current ending : List UInt8}, (∀ b ∈ current, ¬IsTerminator b) →
      (∀ b ∈ ending.head?, IsTerminator b) → lineEnding (current.reverse ++ ending) = ending :=
    fun hfree hends => (lineEnding_append (fun b hb => hfree b (List.mem_reverse.mp hb)) hends).2
  fun_induction linesFrom current bytes with
  | case1 current hempty => simp
  | case2 current hne => simp
  | case3 current b => simp
  | case4 current b b' rest hpair ih =>
    refine List.isChain_cons.mpr ⟨fun next _ => ?_, ih hempty⟩
    rw [IsCut, List.reverse_cons, List.reverse_cons, List.append_assoc,
      hending hfree (by simp [hpair, isTerminator_carriageReturn])]
    simp
  | case5 current b b' rest hpair hend ih =>
    refine List.isChain_cons.mpr ⟨fun next hnext => ?_, ih hempty⟩
    have hhead : ∀ c ∈ [b].head?, IsTerminator c := by
      rintro c ⟨⟩
      exact hend
    rw [IsCut, List.reverse_cons, hending hfree hhead]
    refine ⟨by simp, fun hreturn hfeed => ?_⟩
    rw [head?_of_mem_head?_lines hnext] at hfeed
    exact hpair ⟨by simpa using hreturn, by simpa using hfeed⟩
  | case6 current b b' rest hpair hend ih => exact ih (List.forall_mem_cons.mpr ⟨hend, hfree⟩)

/-- The lines of a file are cut wherever there is a terminator. -/
theorem isChain_lines (bytes : List UInt8) : (lines bytes).IsChain IsCut :=
  isChain_linesFrom (by simp) bytes

/-- Bytes without terminator extend the open line. -/
theorem linesFrom_append_of_free {body : List UInt8} (hfree : ∀ b ∈ body, ¬IsTerminator b)
    (current rest : List UInt8) :
    linesFrom current (body ++ rest) = linesFrom (body.reverse ++ current) rest := by
  induction body generalizing current with
  | nil => rfl
  | cons b body ih =>
    obtain ⟨hb, hbody⟩ := List.forall_mem_cons.mp hfree
    rw [List.reverse_cons, List.append_assoc, List.singleton_append, ← ih hbody, List.cons_append]
    cases hmore : body ++ rest with
    | nil => simp [linesFrom]
    | cons b' more =>
      have hpair : ¬(b = carriageReturn ∧ b' = lineFeed) := fun h => hb (Or.inr h.1)
      have hopen : ¬(b = lineFeed ∨ b = carriageReturn) := hb
      rw [linesFrom, if_neg hpair, if_neg hopen]

/-- A terminator closes the open line, unless it is a carriage return and a line feed follows. -/
theorem linesFrom_ending_append {ending : List UInt8} (hending : IsEnding ending)
    (hne : ending ≠ []) (current : List UInt8) {rest : List UInt8}
    (hnext : ending = [carriageReturn] → rest.head? ≠ some lineFeed) :
    linesFrom current (ending ++ rest) = (current.reverse ++ ending) :: lines rest := by
  cases hending with
  | missing => exact absurd rfl hne
  | both => simp [linesFrom, lines]
  | feed =>
    cases rest with
    | nil => simp [linesFrom, lines]
    | cons b rest =>
      have hfeed : lineFeed ≠ carriageReturn := by decide
      simp [linesFrom, lines, hfeed]
  | carriage =>
    cases rest with
    | nil => simp [linesFrom, lines]
    | cons b rest =>
      have hb : b ≠ lineFeed := by simpa using hnext rfl
      simp [linesFrom, lines, hb]

/-- A line with what it is cut from behind it. -/
theorem lines_append_of_isCut {line rest : List UInt8} (hending : IsEnding (lineEnding line))
    (hcut : IsCut line rest) : lines (line ++ rest) = line :: lines rest := by
  have hfree : ∀ b ∈ lineBody line, ¬IsTerminator b := fun b => not_isTerminator_of_mem_lineBody
  conv => lhs; rw [← lineBody_append_lineEnding line]
  rw [lines, List.append_assoc, linesFrom_append_of_free hfree,
    linesFrom_ending_append hending hcut.1 _ hcut.2, List.append_nil, List.reverse_reverse,
    lineBody_append_lineEnding]

/-- A line alone is the only one. -/
theorem lines_of_isEnding {line : List UInt8} (hne : line ≠ [])
    (hending : IsEnding (lineEnding line)) : lines line = [line] := by
  by_cases hopen : lineEnding line = []
  · have hwhole := lineBody_append_lineEnding line
    rw [hopen, List.append_nil] at hwhole
    exact lines_of_free hne fun b hb => not_isTerminator_of_mem_lineBody (hwhole ▸ hb)
  · have hcut : IsCut line [] := ⟨hopen, by simp⟩
    have hlines := lines_append_of_isCut hending hcut
    rwa [List.append_nil] at hlines

/-- Lines that are cut as the lines of a file are the lines of the file that they make up. -/
theorem lines_flatten {ls : List (List UInt8)} (hne : ∀ line ∈ ls, line ≠ [])
    (hending : ∀ line ∈ ls, IsEnding (lineEnding line)) (hchain : ls.IsChain IsCut) :
    lines ls.flatten = ls := by
  induction ls with
  | nil => rfl
  | cons line rest ih =>
    obtain ⟨hline, hrest⟩ := List.forall_mem_cons.mp hne
    obtain ⟨hfirst, hothers⟩ := List.forall_mem_cons.mp hending
    obtain ⟨hcut, hchain⟩ := List.isChain_cons.mp hchain
    rw [List.flatten_cons]
    cases rest with
    | nil =>
      rw [List.flatten_nil, List.append_nil]
      exact lines_of_isEnding hline hfirst
    | cons next rest =>
      have hstep := hcut next rfl
      have hnext : IsCut line (next :: rest).flatten := by
        rw [IsCut, List.flatten_cons, List.head?_append_of_ne_nil _ (hrest next List.mem_cons_self)]
        exact hstep
      rw [lines_append_of_isCut hfirst hnext, ih hrest hothers hchain]

/-- The pieces are the lines of a file. -/
structure AreLines (bytes : List UInt8) (ls : List (List UInt8)) : Prop where
  /-- They make up the file. -/
  whole : ls.flatten = bytes
  /-- None is empty. -/
  nonempty : ∀ line ∈ ls, line ≠ []
  /-- Each is cut behind its first terminator. -/
  ending : ∀ line ∈ ls, IsEnding (lineEnding line)
  /-- They are cut wherever there is a terminator. -/
  cut : ls.IsChain IsCut

/-- A file has its lines and no others. -/
theorem areLines_iff {bytes : List UInt8} {ls : List (List UInt8)} :
    AreLines bytes ls ↔ ls = lines bytes := by
  constructor
  · intro h
    rw [← h.whole, lines_flatten h.nonempty h.ending h.cut]
  · rintro rfl
    exact ⟨flatten_lines bytes, fun _ => ne_nil_of_mem_lines, fun _ => isEnding_lines,
      isChain_lines bytes⟩

/-- In a file that ends with a line feed the last line has its terminator, whatever is put behind
it. -/
theorem isCut_of_mem_getLast? {bytes line : List UInt8} (hlast : bytes.getLast? = some lineFeed)
    (h : line ∈ (lines bytes).getLast?) (next : List UInt8) : IsCut line next := by
  have hne : line ≠ [] := ne_nil_of_mem_lines (List.mem_of_mem_getLast? h)
  have hbytes : bytes = (lines bytes).dropLast.flatten ++ line := by
    conv => lhs; rw [← flatten_lines bytes, ← List.dropLast_append_getLast? line h]
    simp
  rw [hbytes, List.getLast?_append_of_ne_nil _ hne] at hlast
  have hfeed : lineFeed ∈ lineEnding line := mem_lineEnding_iff.mpr (List.mem_of_mem_getLast? hlast)
  refine ⟨List.ne_nil_of_mem hfeed, fun hreturn => ?_⟩
  rw [hreturn, List.mem_singleton] at hfeed
  exact absurd hfeed (by decide)

/-- A file is cut behind a line feed. -/
theorem lines_append_of_lineFeed {first : List UInt8}
    (h : first = [] ∨ first.getLast? = some lineFeed) (second : List UInt8) :
    lines (first ++ second) = lines first ++ lines second := by
  rcases h with rfl | hlast
  · rfl
  · have hchain : (lines first ++ lines second).IsChain IsCut :=
      List.isChain_append.mpr ⟨isChain_lines first, isChain_lines second,
        fun line hline next _ => isCut_of_mem_getLast? hlast hline next⟩
    have hne : ∀ line ∈ lines first ++ lines second, line ≠ [] := fun line hline =>
      (List.mem_append.mp hline).elim ne_nil_of_mem_lines ne_nil_of_mem_lines
    have hending : ∀ line ∈ lines first ++ lines second, IsEnding (lineEnding line) :=
      fun line hline => (List.mem_append.mp hline).elim isEnding_lines isEnding_lines
    have hlines := lines_flatten hne hending hchain
    rwa [List.flatten_append, flatten_lines, flatten_lines] at hlines

/-- What ends with a byte that is no terminator stands before terminators if it stands before or in
them. -/
theorem prefix_of_prefix_append {part bytes ending : List UInt8} (hpart : part <+: bytes ++ ending)
    (hending : ∀ b ∈ ending, IsTerminator b) (hlast : ∀ b ∈ part.getLast?, ¬IsTerminator b) :
    part <+: bytes := by
  refine List.prefix_of_prefix_length_le hpart (List.prefix_append _ _) ?_
  by_contra hlong
  -- Otherwise the last byte of the part would be one of the terminators.
  obtain ⟨rest, hrest⟩ := hpart
  have hne : part ≠ [] := by
    rintro rfl
    exact hlong (Nat.zero_le _)
  have hmem : part.getLast hne ∈ ending := by
    refine List.mem_of_getElem? (i := part.length - 1 - bytes.length) ?_
    rw [← List.getElem?_append_right (by omega), ← hrest,
      List.getElem?_append_left (by have := List.length_pos_iff.mpr hne; omega),
      ← List.getLast?_eq_getElem?, List.getLast?_eq_some_getLast hne]
  exact hlast _ (List.getLast?_eq_some_getLast hne) (hending _ hmem)

/-- The start of a line belongs to the body if it does not end with a terminator. -/
theorem prefix_lineBody {line part : List UInt8} (hending : IsEnding (lineEnding line))
    (hpart : part <+: line) (hlast : ∀ b ∈ part.getLast?, ¬IsTerminator b) :
    part <+: lineBody line := by
  rw [← lineBody_append_lineEnding line] at hpart
  exact prefix_of_prefix_append hpart hending.isTerminator hlast

end LabelTally.Text
