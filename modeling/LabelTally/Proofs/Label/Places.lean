import LabelTally.Proofs.Label.Recase

/-!
# The places of words

Joined words are known from their text and the places where words start. In text of letters and
digits these are the places where capitals start words, so two texts with the same letters have the
same words if words start at the same places.
-/

namespace LabelTally.Label

open Text

/-- A word starts at a place of joined words. -/
def startsAt : List (List Char) → Nat → Bool
  | [], _ => false
  | word :: rest, i => i == 0 || (decide (word.length ≤ i) && startsAt rest (i - word.length))

/-- The word that holds a place of joined words. -/
def wordOver : List (List Char) → Nat → List Char
  | [], _ => []
  | word :: rest, i => if i < word.length then word else wordOver rest (i - word.length)

/-- The first of joined words starts at the first place. -/
theorem startsAt_zero {words : List (List Char)} (h : words ≠ []) : startsAt words 0 = true := by
  cases words with
  | nil => exact absurd rfl h
  | cons word rest => rfl

/-- No word starts within the first one. -/
theorem startsAt_inside {word : List Char} {i : Nat} (hpos : 0 < i) (hi : i < word.length)
    (rest : List (List Char)) : startsAt (word :: rest) i = false := by
  rw [startsAt, beq_eq_false_iff_ne.mpr (by omega), decide_eq_false (by omega), Bool.false_and,
    Bool.or_false]

/-- Behind the first word the others start where they do without it. -/
theorem startsAt_behind {word : List Char} (hne : word ≠ []) (rest : List (List Char)) (i : Nat) :
    startsAt (word :: rest) (word.length + i) = startsAt rest i := by
  have hpos := List.length_pos_iff.mpr hne
  rw [startsAt, beq_eq_false_iff_ne.mpr (by omega), decide_eq_true (by omega), Bool.true_and,
    Bool.false_or, Nat.add_sub_cancel_left]

/-- Behind some words the others start where they do without them. -/
theorem startsAt_append {before : List (List Char)} (hne : ∀ w ∈ before, w ≠ [])
    (rest : List (List Char)) (i : Nat) :
    startsAt (before ++ rest) (before.flatten.length + i) = startsAt rest i := by
  induction before with
  | nil => rw [List.nil_append, List.flatten_nil, List.length_nil, Nat.zero_add]
  | cons word before ih =>
    obtain ⟨hword, hbefore⟩ := List.forall_mem_cons.mp hne
    rw [List.cons_append, List.flatten_cons, List.length_append, Nat.add_assoc,
      startsAt_behind hword, ih hbefore]

/-- Where words start depends on their lengths only. -/
theorem startsAt_map {f : List Char → List Char} {words : List (List Char)}
    (hlength : ∀ w ∈ words, (f w).length = w.length) (i : Nat) :
    startsAt (words.map f) i = startsAt words i := by
  induction words generalizing i with
  | nil => rfl
  | cons word rest ih =>
    obtain ⟨hword, hrest⟩ := List.forall_mem_cons.mp hlength
    rw [List.map_cons, startsAt, startsAt, hword, ih hrest]

/-- The word over a place is also over the next one, unless a word starts there. -/
theorem wordOver_succ {words : List (List Char)} {i : Nat} (hne : ∀ w ∈ words, w ≠ [])
    (hi : i + 1 < words.flatten.length) (hstart : startsAt words (i + 1) = false) :
    wordOver words (i + 1) = wordOver words i := by
  induction words generalizing i with
  | nil => rfl
  | cons word rest ih =>
    obtain ⟨hword, hrest⟩ := List.forall_mem_cons.mp hne
    rw [List.flatten_cons, List.length_append] at hi
    by_cases hin : i + 1 < word.length
    · rw [wordOver, wordOver, if_pos hin, if_pos (by omega)]
    · obtain ⟨k, hk⟩ := Nat.exists_eq_add_of_le (Nat.le_of_not_lt hin)
      rw [hk, startsAt_behind hword] at hstart
      cases k with
      | zero =>
        have hsome : rest ≠ [] := by
          rintro rfl
          simp only [List.flatten_nil, List.length_nil] at hi
          omega
        rw [startsAt_zero hsome] at hstart
        cases hstart
      | succ k =>
        have hplace : i - word.length = k := by omega
        rw [wordOver, wordOver, if_neg hin, if_neg (by omega), hplace,
          show i + 1 - word.length = k + 1 by omega]
        exact ih hrest (by omega) hstart

/-- The word over a place after a mapping that keeps the lengths of words. -/
theorem wordOver_map {f : List Char → List Char} {words : List (List Char)} {i : Nat}
    (hlength : ∀ w ∈ words, (f w).length = w.length) (hi : i < words.flatten.length) :
    wordOver (words.map f) i = f (wordOver words i) := by
  induction words generalizing i with
  | nil => simp at hi
  | cons word rest ih =>
    obtain ⟨hword, hrest⟩ := List.forall_mem_cons.mp hlength
    rw [List.flatten_cons, List.length_append] at hi
    rw [List.map_cons, wordOver, wordOver, hword]
    split
    · rfl
    · exact ih hrest (by omega)

/-- A place of joined words lies in one of them. -/
theorem exists_wordOver {words : List (List Char)} {i : Nat} (hi : i < words.flatten.length) :
    ∃ before after, words = before ++ wordOver words i :: after ∧
      before.flatten.length ≤ i ∧ i < before.flatten.length + (wordOver words i).length := by
  induction words generalizing i with
  | nil => simp at hi
  | cons word rest ih =>
    rw [List.flatten_cons, List.length_append] at hi
    by_cases hin : i < word.length
    · rw [wordOver, if_pos hin]
      exact ⟨[], rest, rfl, Nat.zero_le i, by simpa using hin⟩
    · rw [wordOver, if_neg hin]
      obtain ⟨before, after, hrest, hle, hlt⟩ := ih (i := i - word.length) (by omega)
      refine ⟨word :: before, after, by rw [List.cons_append, ← hrest], ?_, ?_⟩
      all_goals
        rw [List.flatten_cons, List.length_append]
        omega

/-- Words with the same text that start at the same places are the same. -/
theorem eq_of_startsAt {words others : List (List Char)} (hwords : ∀ w ∈ words, w ≠ [])
    (hothers : ∀ w ∈ others, w ≠ []) (hflat : words.flatten = others.flatten)
    (hstarts : ∀ i, startsAt words i = startsAt others i) : words = others := by
  -- A first word that is shorter than another would be followed by a start within that one.
  have hshort : ∀ {w v : List Char} {ws vs : List (List Char)}, w ≠ [] →
      (w :: ws).flatten = (v :: vs).flatten →
      (∀ i, startsAt (w :: ws) i = startsAt (v :: vs) i) → v.length ≤ w.length := by
    intro w v ws vs hw hflat hstarts
    by_contra hlt
    have hsome : ws ≠ [] := by
      rintro rfl
      have hlength := congrArg List.length hflat
      simp only [List.flatten_cons, List.flatten_nil, List.length_append,
        List.length_nil] at hlength
      omega
    have hstart := hstarts (w.length + 0)
    rw [startsAt_behind hw, startsAt_zero hsome, Nat.add_zero,
      startsAt_inside (List.length_pos_iff.mpr hw) (by omega)] at hstart
    cases hstart
  induction words generalizing others with
  | nil =>
    cases others with
    | nil => rfl
    | cons v vs =>
      rw [List.flatten_nil, List.flatten_cons, eq_comm, List.append_eq_nil_iff] at hflat
      exact absurd hflat.1 (hothers v List.mem_cons_self)
  | cons w ws ih =>
    cases others with
    | nil =>
      rw [List.flatten_nil, List.flatten_cons, List.append_eq_nil_iff] at hflat
      exact absurd hflat.1 (hwords w List.mem_cons_self)
    | cons v vs =>
      obtain ⟨hw, hws⟩ := List.forall_mem_cons.mp hwords
      obtain ⟨hv, hvs⟩ := List.forall_mem_cons.mp hothers
      have hlength : w.length = v.length :=
        Nat.le_antisymm (hshort hv hflat.symm fun i => (hstarts i).symm) (hshort hw hflat hstarts)
      rw [List.flatten_cons, List.flatten_cons] at hflat
      obtain ⟨rfl, hrest⟩ := List.append_inj hflat hlength
      rw [ih hws hvs hrest fun i => by rw [← startsAt_behind hw, hstarts, startsAt_behind hw]]

/-- An open word goes on in the first word of the split. -/
theorem exists_splitFrom_cons (p : Char) (current text : List Char) :
    ∃ more rest, splitFrom (p :: current) text = ((p :: current).reverse ++ more) :: rest := by
  induction text generalizing p current with
  | nil => exact ⟨[], [], by simp [splitFrom]⟩
  | cons c text ih =>
    rw [splitFrom]
    split
    · exact ⟨[], _, by rw [List.append_nil]; rfl⟩
    · split
      · exact ⟨[], _, by rw [List.append_nil]; rfl⟩
      · obtain ⟨more, rest, hsplit⟩ := ih c (p :: current)
        exact ⟨c :: more, rest, by rw [hsplit]; simp⟩

/-- Behind an open word of joined text, words start where capitals start words. -/
theorem startsAt_splitFrom_cons {p : Char} {text : List Char}
    (h : ∀ c ∈ p :: text, c.isAlphanum = true) (current : List Char) (i : Nat) :
    startsAt (splitFrom (p :: current) text) ((p :: current).length + i) =
      wordAt (p :: text) (i + 1) := by
  induction text generalizing p current i with
  | nil =>
    rw [splitFrom, closeWord_cons, ← List.length_reverse, startsAt_behind (by simp)]
    simp [startsAt, wordAt, capitalAt]
  | cons c text ih =>
    have hp := h p List.mem_cons_self
    have hc := h c (List.mem_cons_of_mem _ List.mem_cons_self)
    have htail : ∀ d ∈ c :: text, d.isAlphanum = true := fun d hd => h d (List.mem_cons_of_mem _ hd)
    obtain ⟨hascii, halnum⟩ := isAlphanumeric_of_isAlphanum hc
    have hfirst : wordAt (p :: c :: text) 1 =
        (isUpper c && startsWord (some p) text.head?) := by
      rw [startsWord_of_alphanum hp fun d hd => htail d (List.mem_cons_of_mem _ hd),
        isUpper_of_ascii hascii, List.head?_eq_getElem?]
      rfl
    have hshift : ∀ k, wordAt (p :: c :: text) (k + 2) = wordAt (c :: text) (k + 1) := fun _ => rfl
    rw [splitFrom, if_neg (by simp [halnum])]
    by_cases hstart : isUpper c = true ∧ startsWord (some p) text.head? = true
    · rw [if_pos (by simp [hstart]), closeWord_cons, List.singleton_append, ← List.length_reverse,
        startsAt_behind (by simp)]
      cases i with
      | zero =>
        obtain ⟨more, rest, hsplit⟩ := exists_splitFrom_cons c [] text
        rw [hfirst, hstart.1, hstart.2, hsplit]
        rfl
      | succ i =>
        have hnext := ih htail [] i
        rw [List.length_singleton, Nat.add_comm] at hnext
        rw [hnext, hshift]
    · rw [if_neg (by simpa using hstart)]
      cases i with
      | zero =>
        obtain ⟨more, rest, hsplit⟩ := exists_splitFrom_cons c (p :: current) text
        have hnone : (isUpper c && startsWord (some p) text.head?) = false := by
          simpa [Bool.and_eq_false_iff] using hstart
        rw [hfirst, hnone, hsplit]
        exact startsAt_inside (by simp) (by simp) rest
      | succ i =>
        have hnext := ih htail (p :: current) i
        have hplace : (p :: current).length + (i + 1) = (c :: p :: current).length + i := by
          simp only [List.length_cons]
          omega
        rw [hshift, ← hnext, hplace]

/-- In joined text, words start at the first place and where capitals start words. -/
theorem startsAt_splitFrom {text : List Char} (h : ∀ c ∈ text, c.isAlphanum = true) (i : Nat) :
    startsAt (splitFrom [] text) (i + 1) = wordAt text (i + 1) := by
  cases text with
  | nil => rfl
  | cons c text =>
    have halnum := (isAlphanumeric_of_isAlphanum (h c List.mem_cons_self)).2
    have hnext := startsAt_splitFrom_cons h [] i
    rw [List.length_singleton, Nat.add_comm] at hnext
    rw [splitFrom, if_neg (by simp [halnum]), if_neg (by simp), hnext]

end LabelTally.Label
