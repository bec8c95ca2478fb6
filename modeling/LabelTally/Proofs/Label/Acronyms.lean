import LabelTally.Label.Acronym
import LabelTally.Proofs.Text.Casing

/-!
# Acronyms in ASCII text

Where an acronym stands does not depend on case. Raising acronyms in ASCII text therefore adds the
same capitals whatever capitals the text has: those that the lowered text would get.
-/

namespace LabelTally.Label

open Text

/-- An ASCII character agrees with another one whatever its case is. -/
theorem sameLetter_toLower {c : Char} (h : isAscii c = true) (w : Char) :
    sameLetter w c.toLower = sameLetter w c := by
  have hlower : lowerSimple c.toLower = lowerSimple c := by
    rw [lowerSimple_of_ascii h, lowerSimple_of_ascii (by rw [isAscii_toLower, h]),
      Char.toLower_toLower_eq_toLower]
  rw [sameLetter, sameLetter, hlower]

/-- A word stands at the start of ASCII text whatever the case of the text is. -/
theorem isSome_dropWordIgnoringCase_lowered (word : List Char) {text : List Char}
    (h : IsAsciiText text) :
    (dropWordIgnoringCase word (lowered text)).isSome =
      (dropWordIgnoringCase word text).isSome := by
  induction word generalizing text with
  | nil => rfl
  | cons w word ih =>
    cases text with
    | nil => rfl
    | cons c rest =>
      have hrest : IsAsciiText rest := fun d hd => h d (List.mem_cons_of_mem _ hd)
      show (dropWordIgnoringCase (w :: word) (c.toLower :: lowered rest)).isSome = _
      rw [dropWordIgnoringCase, dropWordIgnoringCase, sameLetter_toLower (h c List.mem_cons_self)]
      split
      · exact ih hrest
      · rfl

/-- A character is raised or not, and raising goes on, as in the lowered text. -/
theorem exists_raiseFrom_cons (word : List Char) (skip : Nat) {c : Char} {rest : List Char}
    (h : IsAsciiText (c :: rest)) :
    ∃ (hit : Bool) (next : Nat),
      raiseFrom word skip (c :: rest) =
        (if hit then c.toUpper else c) :: raiseFrom word next rest ∧
      raiseFrom word skip (lowered (c :: rest)) =
        (if hit then c.toUpper else c.toLower) :: raiseFrom word next (lowered rest) := by
  have hc := h c List.mem_cons_self
  have hupper : upperChar c.toLower = [c.toUpper] := by
    rw [upperChar_of_ascii (by rw [isAscii_toLower, hc]), Char.toUpper_toLower_eq_toUpper]
  have hlowered : lowered (c :: rest) = c.toLower :: lowered rest := rfl
  cases skip with
  | succ skip =>
    refine ⟨true, skip, ?_, ?_⟩
    · rw [raiseFrom, upperChar_of_ascii hc]
      rfl
    · rw [hlowered, raiseFrom, hupper]
      rfl
  | zero =>
    have hword := isSome_dropWordIgnoringCase_lowered word h
    rw [hlowered] at hword
    by_cases hhit : (dropWordIgnoringCase word (c :: rest)).isSome = true
    · refine ⟨true, word.length - 1, ?_, ?_⟩
      · rw [raiseFrom, if_pos hhit, upperChar_of_ascii hc]
        rfl
      · rw [hlowered, raiseFrom, if_pos (by rw [hword, hhit]), hupper]
        rfl
    · refine ⟨false, 0, ?_, ?_⟩
      · rw [raiseFrom, if_neg hhit]
        rfl
      · rw [hlowered, raiseFrom, if_neg (by rw [hword]; exact hhit)]
        rfl

/-- Raising occurrences changes only the case. -/
theorem lowered_raiseFrom (word : List Char) (skip : Nat) {text : List Char}
    (h : IsAsciiText text) : lowered (raiseFrom word skip text) = lowered text := by
  induction text generalizing skip with
  | nil => rw [raiseFrom]
  | cons c rest ih =>
    have hrest : IsAsciiText rest := fun d hd => h d (List.mem_cons_of_mem _ hd)
    obtain ⟨hit, next, hraise, _⟩ := exists_raiseFrom_cons word skip h
    have hchar : (if hit then c.toUpper else c).toLower = c.toLower := by
      cases hit
      · rfl
      · exact Char.toLower_toUpper_eq_toLower c
    have htail : lowered (raiseFrom word next rest) = lowered rest := ih next hrest
    rw [hraise]
    show (if hit then c.toUpper else c).toLower :: lowered (raiseFrom word next rest) = _
    rw [hchar, htail]
    rfl

/-- Raising occurrences adds the capitals that the lowered text would get. -/
theorem capitalAt_raiseFrom (word : List Char) (skip : Nat) {text : List Char}
    (h : IsAsciiText text) (i : Nat) :
    capitalAt (raiseFrom word skip text) i =
      (capitalAt text i || capitalAt (raiseFrom word skip (lowered text)) i) := by
  induction text generalizing skip i with
  | nil => rw [raiseFrom]; rfl
  | cons c rest ih =>
    have hrest : IsAsciiText rest := fun d hd => h d (List.mem_cons_of_mem _ hd)
    obtain ⟨hit, next, hraise, hlow⟩ := exists_raiseFrom_cons word skip h
    rw [hraise, hlow]
    cases i with
    | zero =>
      show (if hit then c.toUpper else c).isUpper =
        (c.isUpper || (if hit then c.toUpper else c.toLower).isUpper)
      cases hit
      · simp
      · simp [Char.isAlpha]
    | succ i => exact ih next hrest i

/-- Raising an acronym changes only the case. -/
theorem lowered_raise (acronym : List Char) {text : List Char} (h : IsAsciiText text) :
    lowered (raise acronym text) = lowered text := by
  rw [raise]
  split
  · rfl
  · exact lowered_raiseFrom acronym 0 h

/-- Raising an acronym adds the capitals that the lowered text would get. -/
theorem capitalAt_raise (acronym : List Char) {text : List Char} (h : IsAsciiText text) (i : Nat) :
    capitalAt (raise acronym text) i =
      (capitalAt text i || capitalAt (raise acronym (lowered text)) i) := by
  rw [raise, raise]
  split
  · rw [capitalAt_lowered, Bool.or_false]
  · exact capitalAt_raiseFrom acronym 0 h i

/-- Raising acronyms one after the other changes only the case. -/
theorem lowered_foldl_raise (acronyms : List (List Char)) {text : List Char}
    (h : IsAsciiText text) :
    lowered (acronyms.foldl (fun t a => raise a t) text) = lowered text := by
  induction acronyms generalizing text with
  | nil => rfl
  | cons a acronyms ih =>
    have hraised : IsAsciiText (raise a text) := h.of_lowered_eq (lowered_raise a h)
    rw [List.foldl_cons, ih hraised, lowered_raise a h]

/-- Each acronym adds its capitals, whatever the others have added before. -/
theorem capitalAt_foldl_raise (acronyms : List (List Char)) {text : List Char}
    (h : IsAsciiText text) (i : Nat) :
    capitalAt (acronyms.foldl (fun t a => raise a t) text) i =
      (capitalAt text i ||
        capitalAt (acronyms.foldl (fun t a => raise a t) (lowered text)) i) := by
  induction acronyms generalizing text with
  | nil => rw [List.foldl_nil, List.foldl_nil, capitalAt_lowered, Bool.or_false]
  | cons a acronyms ih =>
    have hlow : IsAsciiText (lowered text) := h.of_lowered_eq (lowered_lowered text)
    have hraised : IsAsciiText (raise a text) := h.of_lowered_eq (lowered_raise a h)
    have hraisedLow : IsAsciiText (raise a (lowered text)) :=
      hlow.of_lowered_eq (lowered_raise a hlow)
    rw [List.foldl_cons, List.foldl_cons, ih hraised, ih hraisedLow, capitalAt_raise a h,
      lowered_raise a h, lowered_raise a hlow, lowered_lowered, Bool.or_assoc]

/-- Without acronyms nothing is raised. -/
@[simp] theorem raiseAll_nil (text : List Char) : raiseAll [] text = text := by
  simp [raiseAll, sortTexts]

/-- Raising all acronyms changes only the case. -/
theorem lowered_raiseAll (acronyms : List (List Char)) {text : List Char} (h : IsAsciiText text) :
    lowered (raiseAll acronyms text) = lowered text :=
  lowered_foldl_raise (sortTexts acronyms) h

/-- An acronym stands at a place of the text, with a letter that it raises. -/
def acronymAt (acronyms : List (List Char)) (text : List Char) (i : Nat) : Bool :=
  capitalAt (raiseAll acronyms (lowered text)) i

/-- Without acronyms none stands anywhere. -/
theorem acronymAt_nil (text : List Char) (i : Nat) : acronymAt [] text i = false := by
  rw [acronymAt, raiseAll_nil, capitalAt_lowered]

/-- Where acronyms stand does not depend on case. -/
theorem acronymAt_congr {acronyms : List (List Char)} {text other : List Char}
    (h : lowered text = lowered other) (i : Nat) :
    acronymAt acronyms text i = acronymAt acronyms other i := by
  rw [acronymAt, acronymAt, h]

/-- Raising all acronyms adds a capital exactly where one of them stands. -/
theorem capitalAt_raiseAll (acronyms : List (List Char)) {text : List Char} (h : IsAsciiText text)
    (i : Nat) :
    capitalAt (raiseAll acronyms text) i = (capitalAt text i || acronymAt acronyms text i) :=
  capitalAt_foldl_raise (sortTexts acronyms) h i

end LabelTally.Label
