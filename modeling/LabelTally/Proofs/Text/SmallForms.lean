import LabelTally.Proofs.Text.Casing

/-!
# Small forms in every script

What lowering makes of a character, for all code points. A character whose small form is another
one gets a small letter; a small letter is its own small form and no capital; and what is
alphanumeric stays so. The property tables are compared run by run: two runs of code points are
apart if their bounds or their remainders keep them apart. A lowered text therefore has a character
for each of the text, except that the dotted capital `I` leaves a combining dot behind its small
form.
-/

namespace LabelTally.Text

/-! ## Runs of code points -/

/-- The members of a run lie between its bounds, whole steps behind its first member. -/
theorem Run.contains_iff_mod (r : Run) (code : Nat) :
    r.contains code = true ↔
      r.first ≤ code ∧ code ≤ r.last ∧ (code - r.first) % r.step = 0 := by
  simp only [Run.contains, Bool.and_eq_true, decide_eq_true_eq, beq_iff_eq, and_assoc]

/-- The distance of neighbouring members, zero if there is one member only. -/
def Run.stride (r : Run) : Nat := if r.first = r.last then 0 else r.step

/-- The members of a run lie between its bounds and have one remainder. -/
theorem Run.contains_iff (r : Run) (code : Nat) :
    r.contains code = true ↔
      r.first ≤ code ∧ code ≤ r.last ∧ code ≡ r.first [MOD r.stride] := by
  rw [Run.contains_iff_mod, Run.stride]
  refine and_congr_right fun hfirst => and_congr_right fun hlast => ?_
  split
  · have hcode : code = r.first := by omega
    simp [hcode, Nat.ModEq]
  · rw [Nat.ModEq.comm, Nat.modEq_iff_dvd' hfirst, Nat.dvd_iff_mod_eq_zero]

/-- No code point is in both runs, as their bounds or their remainders tell. -/
def Run.isApart (r s : Run) : Bool :=
  Nat.blt r.last s.first || Nat.blt s.last r.first ||
    r.first % r.stride.gcd s.stride != s.first % r.stride.gcd s.stride

/-- A member of a run is in no run that is apart from it. -/
theorem Run.not_contains_of_isApart {r s : Run} (h : r.isApart s = true) {code : Nat}
    (hcode : r.contains code = true) : s.contains code = false := by
  rw [Bool.eq_false_iff]
  intro hs
  obtain ⟨hrfirst, hrlast, hr⟩ := (r.contains_iff code).mp hcode
  obtain ⟨hsfirst, hslast, hs⟩ := (s.contains_iff code).mp hs
  -- Both first members have the remainder of the common one.
  have hmod : r.first ≡ s.first [MOD r.stride.gcd s.stride] :=
    (hr.symm.of_dvd (Nat.gcd_dvd_left _ _)).trans (hs.of_dvd (Nat.gcd_dvd_right _ _))
  simp only [Run.isApart, Bool.or_eq_true, Nat.blt_eq, bne_iff_ne] at h
  rcases h with (h | h) | h
  · omega
  · omega
  · exact h hmod

/-- All members of the second run are in the first. -/
def Run.covers (r s : Run) : Bool :=
  Nat.ble r.first s.first && Nat.ble s.last r.last && s.first % r.stride == r.first % r.stride &&
    s.stride % r.stride == 0

/-- A run has the members of the runs that it covers. -/
theorem Run.contains_of_covers {r s : Run} (h : r.covers s = true) {code : Nat}
    (hcode : s.contains code = true) : r.contains code = true := by
  simp only [Run.covers, Bool.and_eq_true, Nat.ble_eq, beq_iff_eq] at h
  obtain ⟨⟨⟨hfirst, hlast⟩, hmod⟩, hstride⟩ := h
  obtain ⟨hsfirst, hslast, hs⟩ := (s.contains_iff code).mp hcode
  refine (r.contains_iff code).mpr ⟨by omega, by omega, ?_⟩
  exact (hs.of_dvd (Nat.dvd_of_mod_eq_zero hstride)).trans hmod

/-- A run apart from all runs of a set has no member in the set. -/
theorem CharSet.not_contains_of_isApart {runs : CharSet} {r : Run} (h : runs.all r.isApart = true)
    {code : Nat} (hcode : r.contains code = true) : runs.contains code = false := by
  rw [CharSet.contains, List.any_eq_false]
  intro s hs
  rw [Run.not_contains_of_isApart (List.all_eq_true.mp h s hs) hcode]
  exact Bool.false_ne_true

/-- All members of the run have a property that is decided by `ascii` below 128 and by runs from
there on. -/
def Run.isWithin (ascii : Char → Bool) (runs : CharSet) (r : Run) : Bool :=
  (Nat.ble 128 r.first && runs.any (·.covers r)) ||
    (r.first == r.last && Nat.blt r.last 128 && ascii (Char.ofNat r.first))

/-- A character with its code in a run has the property that the run is within. -/
theorem Run.classify_of_isWithin {ascii : Char → Bool} {runs : CharSet} {r : Run}
    (h : r.isWithin ascii runs = true) {c : Char} (hc : r.contains c.toNat = true) :
    classify ascii runs c = true := by
  obtain ⟨hfirst, hlast, -⟩ := (r.contains_iff c.toNat).mp hc
  simp only [Run.isWithin, Bool.or_eq_true, Bool.and_eq_true, Nat.ble_eq, Nat.blt_eq, beq_iff_eq,
    List.any_eq_true] at h
  rcases h with ⟨hbeyond, s, hs, hcovers⟩ | ⟨⟨hone, hascii⟩, hproperty⟩
  · rw [classify, if_neg (by simp only [isAscii, decide_eq_true_eq]; omega)]
    exact List.any_eq_true.mpr ⟨s, hs, Run.contains_of_covers hcovers hc⟩
  · have hcode : r.first = c.toNat := by omega
    rw [classify, if_pos (by simp only [isAscii, decide_eq_true_eq]; omega)]
    rwa [hcode, Char.ofNat_toNat] at hproperty

/-! ## Shifts of code points -/

/-- The code points that a shift moves. -/
def Shift.source (s : Shift) : Run := ⟨s.first, s.last, s.step⟩

/-- The code points that a shift moves to. -/
def Shift.image (s : Shift) : Run :=
  ⟨(s.first + s.delta : Int).toNat, (s.last + s.delta : Int).toNat, s.step⟩

/-- The shift moves to characters only. -/
def Shift.isSound (s : Shift) : Bool :=
  0 ≤ s.first + s.delta &&
    (Nat.blt s.image.last 0xd800 || (Nat.ble 0xe000 s.image.first && Nat.blt s.image.last 0x110000))

/-- A sound shift moves a member of its source to the character with a code in its image. -/
theorem Shift.contains_image {s : Shift} (h : s.isSound = true) {code : Nat}
    (hcode : s.source.contains code = true) :
    s.image.contains (Char.ofNat (code + s.delta : Int).toNat).toNat = true := by
  simp only [Shift.isSound, Shift.image, Bool.and_eq_true, Bool.or_eq_true, decide_eq_true_eq,
    Nat.blt_eq, Nat.ble_eq] at h
  obtain ⟨hfirst, hlast, hstep⟩ := (s.source.contains_iff_mod code).mp hcode
  simp only [Shift.source] at hfirst hlast hstep
  have hvalid : (code + s.delta : Int).toNat.isValidChar := by
    simp only [Nat.isValidChar]
    omega
  have hdistance : (code + s.delta : Int).toNat - (s.first + s.delta : Int).toNat =
      code - s.first := by omega
  rw [Char.toNat_ofNat, if_pos hvalid, Run.contains_iff_mod]
  simp only [Shift.image, hdistance, hstep, and_true]
  omega

/-- A shifted code point is in the source of one of the shifts. -/
theorem exists_of_shift?_eq_some {shifts : List Shift} {code image : Nat}
    (h : shift? shifts code = some image) :
    ∃ s ∈ shifts, s.source.contains code = true ∧ image = (code + s.delta : Int).toNat := by
  obtain ⟨s, hs, himage⟩ := Option.map_eq_some_iff.mp h
  have hsource := List.find?_some hs
  exact ⟨s, List.mem_of_find?_eq_some hs, hsource, himage.symm⟩

/-! ## The tables of letter case -/

/-- Lowering gives characters. -/
theorem lowerShifts_isSound : lowerShifts.all Shift.isSound = true := by decide +kernel

/-- Lowering gives small letters. -/
theorem lowerShifts_image_isLower :
    (lowerShifts.all fun s => s.image.isWithin Char.isLower lowercaseRuns) = true := by
  decide +kernel

/-- Small letters are not lowered. -/
theorem lowerShifts_source_isApart_lowercase :
    (lowerShifts.all fun s => lowercaseRuns.all s.source.isApart) = true := by decide +kernel

/-- Lowering keeps what is alphanumeric. The circled capitals are not, nor are their small forms. -/
theorem lowerShifts_image_isAlphanumeric :
    (lowerShifts.all fun s => s.image.isWithin Char.isAlphanum alphanumericRuns ||
      alphanumericRuns.all s.source.isApart) = true := by decide +kernel

/-- No small letter is a capital. -/
theorem lowercaseRuns_isApart_uppercase :
    (lowercaseRuns.all fun r => uppercaseRuns.all r.isApart) = true := by decide +kernel

/-! ## The small form of a character -/

/-- A character is its own small form, or an ASCII capital, or the dotted capital `I`, or moved by a
shift. -/
theorem lowerSimple_cases (c : Char) :
    lowerSimple c = c ∨ (isAscii c = true ∧ c.isUpper = true ∧ lowerSimple c = c.toLower) ∨
      (c = 'İ' ∧ lowerSimple c = 'i') ∨
      (isAscii c = false ∧ ∃ s ∈ lowerShifts, s.source.contains c.toNat = true ∧
        s.image.contains (lowerSimple c).toNat = true) := by
  cases hascii : isAscii c with
  | true =>
    rw [lowerSimple_of_ascii hascii]
    cases hupper : c.isUpper with
    | true => exact .inr (.inl ⟨rfl, rfl, rfl⟩)
    | false => exact .inl (toLower_eq_self hupper)
  | false =>
    by_cases hdot : c = 'İ'
    · subst hdot
      exact .inr (.inr (.inl ⟨rfl, rfl⟩))
    · have hform : lowerSimple c = ((shift? lowerShifts c.toNat).map Char.ofNat).getD c := by
        rw [lowerSimple, if_neg (by simp [hascii]), if_neg (by simpa using hdot)]
      cases hshift : shift? lowerShifts c.toNat with
      | none =>
        rw [hshift] at hform
        exact .inl hform
      | some image =>
        obtain ⟨s, hs, hsource, rfl⟩ := exists_of_shift?_eq_some hshift
        rw [hshift, Option.map_some, Option.getD_some] at hform
        refine .inr (.inr (.inr ⟨rfl, s, hs, hsource, ?_⟩))
        rw [hform]
        exact Shift.contains_image (List.all_eq_true.mp lowerShifts_isSound s hs) hsource

/-- A small form that is another character is a small letter. -/
theorem isLower_lowerSimple {c : Char} (h : lowerSimple c ≠ c) :
    isLower (lowerSimple c) = true := by
  rcases lowerSimple_cases c with hself | ⟨hascii, hupper, hform⟩ | ⟨-, hform⟩ |
    ⟨-, s, hs, -, himage⟩
  · exact absurd hself h
  · rw [hform, isLower_of_ascii (by rw [isAscii_toLower, hascii]), Char.isLower_toLower_eq_isAlpha]
    simp [Char.isAlpha, hupper]
  · rw [hform]
    decide
  · exact Run.classify_of_isWithin (List.all_eq_true.mp lowerShifts_image_isLower s hs) himage

/-- A small letter is its own small form. -/
theorem lowerSimple_of_isLower {c : Char} (h : isLower c = true) : lowerSimple c = c := by
  rcases lowerSimple_cases c with hself | ⟨hascii, hupper, -⟩ | ⟨rfl, -⟩ |
    ⟨hascii, s, hs, hsource, -⟩
  · exact hself
  · rw [isLower_of_ascii hascii] at h
    exact absurd h (Char.not_isLower_of_isUpper hupper)
  · exact absurd h (by decide)
  · rw [isLower, classify, if_neg (by simp [hascii]), CharSet.not_contains_of_isApart
      (List.all_eq_true.mp lowerShifts_source_isApart_lowercase s hs) hsource] at h
    cases h

/-- A small letter is no capital. -/
theorem not_isUpper_of_isLower {c : Char} (h : isLower c = true) : isUpper c = false := by
  cases hascii : isAscii c with
  | true =>
    rw [isLower_of_ascii hascii] at h
    rw [isUpper_of_ascii hascii]
    exact Bool.eq_false_iff.mpr (Char.not_isUpper_of_isLower h)
  | false =>
    rw [isLower, classify, if_neg (by simp [hascii])] at h
    rw [isUpper, classify, if_neg (by simp [hascii])]
    obtain ⟨r, hr, hc⟩ := List.any_eq_true.mp h
    have hapart := List.all_eq_true.mp lowercaseRuns_isApart_uppercase r hr
    exact CharSet.not_contains_of_isApart hapart hc

/-- The small form of an alphanumeric character is alphanumeric. -/
theorem isAlphanumeric_lowerSimple {c : Char} (h : isAlphanumeric c = true) :
    isAlphanumeric (lowerSimple c) = true := by
  rcases lowerSimple_cases c with hself | ⟨hascii, -, hform⟩ | ⟨-, hform⟩ |
    ⟨hascii, s, hs, hsource, himage⟩
  · rw [hself, h]
  · rw [isAlphanumeric_of_ascii hascii] at h
    rw [hform, isAlphanumeric_of_ascii (by rw [isAscii_toLower, hascii]), isAlphanum_toLower, h]
  · rw [hform]
    decide
  · have hcheck := List.all_eq_true.mp lowerShifts_image_isAlphanumeric s hs
    rw [Bool.or_eq_true] at hcheck
    refine Run.classify_of_isWithin (hcheck.resolve_right fun hapart => ?_) himage
    rw [isAlphanumeric, classify, if_neg (by simp [hascii]),
      CharSet.not_contains_of_isApart hapart hsource] at h
    cases h

/-! ## Lowered text -/

/-- A character of a lowered text that stands for one of the text: its small form, or a final sigma
for the capital one. -/
def LowersTo (c low : Char) : Prop := low = lowerSimple c ∨ (c = 'Σ' ∧ low = 'ς')

section LowersTo

variable {c low : Char} (h : LowersTo c low)
include h

/-- A character is kept that is its own small form, and replaced by a small letter otherwise. -/
theorem LowersTo.eq_or_isLower :
    (lowerSimple c = c ∧ low = c) ∨ (lowerSimple c ≠ c ∧ isLower low = true) := by
  rcases h with rfl | ⟨rfl, rfl⟩
  · by_cases hself : lowerSimple c = c
    · exact .inl ⟨hself, hself⟩
    · exact .inr ⟨hself, isLower_lowerSimple hself⟩
  · exact .inr (by decide)

/-- A lowered character is its own small form. -/
theorem LowersTo.lowerSimple_eq : lowerSimple low = low := by
  rcases h.eq_or_isLower with ⟨hself, rfl⟩ | ⟨-, hlower⟩
  · exact hself
  · exact lowerSimple_of_isLower hlower

/-- The small letters of a lowered text are those of the text and what was lowered. -/
theorem LowersTo.isLower_eq : isLower low = (isLower c || lowerSimple c != c) := by
  rcases h.eq_or_isLower with ⟨hself, rfl⟩ | ⟨hchange, hlower⟩
  · rw [hself, bne_self_eq_false, Bool.or_false]
  · rw [hlower, bne_iff_ne.mpr hchange, Bool.or_true]

/-- Together with the digits, too, they are those of the text and what was lowered. -/
theorem LowersTo.isLower_or_isDigit :
    (isLower low || isDigit low) = (isLower c || isDigit c || lowerSimple c != c) := by
  rcases h.eq_or_isLower with ⟨hself, rfl⟩ | ⟨hchange, hlower⟩
  · rw [hself, bne_self_eq_false, Bool.or_false]
  · rw [hlower, bne_iff_ne.mpr hchange, Bool.true_or, Bool.or_true]

/-- The capitals of a lowered text are those that are their own small form. -/
theorem LowersTo.isUpper_eq : isUpper low = (isUpper c && lowerSimple c == c) := by
  rcases h.eq_or_isLower with ⟨hself, rfl⟩ | ⟨hchange, hlower⟩
  · rw [hself, beq_self_eq_true, Bool.and_true]
  · rw [not_isUpper_of_isLower hlower, beq_eq_false_iff_ne.mpr hchange, Bool.and_false]

/-- Lowering keeps what is alphanumeric. -/
theorem LowersTo.isAlphanumeric (hc : isAlphanumeric c = true) : isAlphanumeric low = true := by
  rcases h with rfl | ⟨-, rfl⟩
  · exact isAlphanumeric_lowerSimple hc
  · decide

end LowersTo

/-- Lowering goes character by character, but leaves a combining dot behind the small form of the
dotted capital `I`. -/
theorem exists_lowerFrom_cons (before : List Char) (c : Char) (rest : List Char) :
    ∃ low, LowersTo c low ∧ lowerFrom before (c :: rest) =
      low :: ((if c = 'İ' then ['\u0307'] else []) ++ lowerFrom (c :: before) rest) := by
  rw [lowerFrom]
  by_cases hsigma : c = 'Σ'
  · subst hsigma
    have hdot : ('Σ' : Char) ≠ 'İ' := by decide
    rw [if_pos (beq_self_eq_true _), if_neg hdot]
    refine ⟨_, ?_, rfl⟩
    split
    · exact .inr ⟨rfl, rfl⟩
    · exact .inl (by decide)
  · refine ⟨lowerSimple c, .inl rfl, ?_⟩
    rw [if_neg (by simpa using hsigma), lowerChar]
    by_cases hdot : c = 'İ'
    · subst hdot
      rfl
    · rw [if_neg (by simpa using hdot), if_neg hdot]
      rfl

/-- Lowering leaves something of every text that is not empty. -/
theorem lower_ne_nil {text : List Char} (h : text ≠ []) : lower text ≠ [] := by
  obtain ⟨c, rest, rfl⟩ := List.exists_cons_of_ne_nil h
  obtain ⟨low, -, hform⟩ := exists_lowerFrom_cons [] c rest
  rw [lower, hform]
  exact List.cons_ne_nil _ _

/-- Without the dotted capital `I` every character of the text is lowered to one character. -/
theorem forall₂_lowerFrom {text : List Char} (h : 'İ' ∉ text) (before : List Char) :
    List.Forall₂ LowersTo text (lowerFrom before text) := by
  induction text generalizing before with
  | nil => exact .nil
  | cons c rest ih =>
    rw [List.mem_cons, not_or] at h
    obtain ⟨hc, hrest⟩ := h
    obtain ⟨low, hlow, hform⟩ := exists_lowerFrom_cons before c rest
    rw [hform, if_neg (Ne.symm hc), List.nil_append]
    exact .cons hlow (ih hrest (c :: before))

/-- A lowered text has nothing but lowered characters and the combining dots of dotted capitals. -/
theorem lowersTo_of_mem_lowerFrom {before text : List Char} {low : Char}
    (h : low ∈ lowerFrom before text) :
    ('İ' ∈ text ∧ low = '\u0307') ∨ ∃ c ∈ text, LowersTo c low := by
  induction text generalizing before with
  | nil => cases h
  | cons c rest ih =>
    obtain ⟨first, hfirst, hform⟩ := exists_lowerFrom_cons before c rest
    rw [hform, List.mem_cons, List.mem_append] at h
    rcases h with rfl | hdot | hrest
    · exact .inr ⟨c, List.mem_cons_self, hfirst⟩
    · split at hdot
      · next hc => exact .inl ⟨hc ▸ List.mem_cons_self, List.mem_singleton.mp hdot⟩
      · cases hdot
    · exact (ih hrest).imp (fun ⟨hmem, hlow⟩ => ⟨List.mem_cons_of_mem _ hmem, hlow⟩)
        fun ⟨d, hd, hlow⟩ => ⟨d, List.mem_cons_of_mem _ hd, hlow⟩

/-- The dotted capital `I` leaves a combining dot. -/
theorem dot_mem_lowerFrom {text : List Char} (h : 'İ' ∈ text) (before : List Char) :
    '\u0307' ∈ lowerFrom before text := by
  induction text generalizing before with
  | nil => cases h
  | cons c rest ih =>
    obtain ⟨low, -, hform⟩ := exists_lowerFrom_cons before c rest
    rw [hform]
    rcases List.mem_cons.mp h with rfl | hrest
    · simp
    · simp [ih hrest (c :: before)]

/-- Every character of a lowered text is its own small form. -/
theorem lowerSimple_of_mem_lowerFrom {before text : List Char} {low : Char}
    (h : low ∈ lowerFrom before text) : lowerSimple low = low := by
  rcases lowersTo_of_mem_lowerFrom h with ⟨-, rfl⟩ | ⟨c, -, hlow⟩
  · decide
  · exact hlow.lowerSimple_eq

/-- A text of characters that are their own small forms is lowered already. -/
theorem lowerFrom_eq_self {text : List Char} (h : ∀ c ∈ text, lowerSimple c = c)
    (before : List Char) : lowerFrom before text = text := by
  induction text generalizing before with
  | nil => rfl
  | cons c rest ih =>
    obtain ⟨hc, hrest⟩ := List.forall_mem_cons.mp h
    obtain ⟨low, hlow, hform⟩ := exists_lowerFrom_cons before c rest
    have hkeep : low = c := by
      rcases hlow.eq_or_isLower with ⟨-, hlow⟩ | ⟨hchange, -⟩
      · exact hlow
      · exact absurd hc hchange
    have hdot : c ≠ 'İ' := by
      rintro rfl
      exact absurd hc (by decide)
    rw [hform, hkeep, if_neg hdot, List.nil_append, ih hrest]

end LabelTally.Text
