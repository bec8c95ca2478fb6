import LabelTally.Proofs.Label.Separated
import LabelTally.Proofs.Text.SmallForms

/-!
# Converting to `snake_case` again

The words of `snake_case` are lowered, and a second conversion splits and lowers them once more.
Lowering a lowered word changes nothing, so the text stays as it is exactly if no lowered word is
split. Two things split one: the combining dot that the dotted capital `I` leaves, which is no
letter, and a capital without a small form, which lowering keeps while its neighbours become small.
-/

namespace LabelTally.Label

open Text

/-- Lowering changes the character at a place. -/
def changesAt (word : List Char) (i : Nat) : Bool := word[i]?.any fun c => lowerSimple c != c

/-- A capital that is its own small form stands at a place. -/
def keepsCapitalAt (word : List Char) (i : Nat) : Bool :=
  word[i]?.any fun c => isUpper c && lowerSimple c == c

/-- A capital that stays one is a capital. -/
theorem any_isUpper_of_keepsCapitalAt {word : List Char} {i : Nat}
    (h : keepsCapitalAt word i = true) : word[i]?.any isUpper = true := by
  unfold keepsCapitalAt at h
  cases hc : word[i]? with
  | none =>
    rw [hc] at h
    cases h
  | some c =>
    rw [hc, Option.any_some, Bool.and_eq_true] at h
    exact h.1

/-- Lowering lets a word start inside the word: at a capital that stays one, behind a character that
changes, or behind a capital and before a character that changes. -/
def BreaksWhenLowered (word : List Char) : Prop :=
  ∃ i, keepsCapitalAt word (i + 1) = true ∧
    (changesAt word i = true ∨ word[i]?.any isUpper = true ∧ changesAt word (i + 2) = true)

/-- If related characters agree on a property, so do related texts at every place. -/
theorem any_getElem?_of_forall₂ {R : Char → Char → Prop} {f g : Char → Bool}
    (hfg : ∀ c d, R c d → g d = f c) {text other : List Char} (h : List.Forall₂ R text other)
    (i : Nat) : other[i]?.any g = text[i]?.any f := by
  induction h generalizing i with
  | nil => rfl
  | cons hfirst hrest ih =>
    cases i with
    | zero => exact hfg _ _ hfirst
    | succ i => simpa using ih i

/-- A capital starts a word behind a small letter or a digit, or as the last of several. -/
theorem startsWord_eq (previous next : Option Char) :
    startsWord previous next =
      (previous.any (fun c => isLower c || isDigit c) ||
        (previous.any isUpper && next.any isLower)) := by
  cases previous <;> rfl

section Lowered

variable {word low : List Char} (h : List.Forall₂ LowersTo word low)
include h

/-- The capitals of a lowered word. -/
theorem any_isUpper_lowered (i : Nat) : low[i]?.any isUpper = keepsCapitalAt word i :=
  any_getElem?_of_forall₂ (fun _ _ hlow => hlow.isUpper_eq) h i

/-- A capital starts a word between lowered characters exactly if it does so between the characters
themselves, or behind one that changes, or behind a capital and before one that changes. -/
theorem startsWord_lowered (i : Nat) :
    startsWord low[i]? low[i + 2]? =
      (startsWord word[i]? word[i + 2]? || changesAt word i ||
        (word[i]?.any isUpper && changesAt word (i + 2))) := by
  have hsmall := any_getElem?_of_forall₂ (fun _ _ hlow => hlow.isLower_or_isDigit) h i
  have hnext := any_getElem?_of_forall₂ (fun _ _ hlow => hlow.isLower_eq) h (i + 2)
  rw [startsWord_eq, hsmall, any_isUpper_lowered h, hnext, startsWord_eq, keepsCapitalAt,
    changesAt, changesAt]
  cases word[i]? with
  | none => rfl
  | some c =>
    simp only [Option.any_some, bne]
    -- A character that changes makes both sides true.
    cases lowerSimple c == c with
    | false => simp
    | true => cases word[i + 2]? <;> simp [Bool.and_or_distrib_left, Bool.or_assoc]

end Lowered

/-- A lowered word without the dotted capital `I` is whole exactly if lowering lets no word start in
it. -/
theorem isWhole_lower_iff_of_notMem {word : List Char} (h : IsWhole word) (hdot : 'İ' ∉ word) :
    IsWhole (lower word) ↔ ¬BreaksWhenLowered word := by
  obtain ⟨hne, halnum, hstarts⟩ := (isWhole_iff_getElem? word).mp h
  have hlow : List.Forall₂ LowersTo word (lower word) := forall₂_lowerFrom hdot []
  have hlowAlnum : ∀ low ∈ lower word, isAlphanumeric low = true := by
    intro low hmem
    rcases lowersTo_of_mem_lowerFrom hmem with ⟨hmem, -⟩ | ⟨c, hc, hlow⟩
    · exact absurd hmem hdot
    · exact hlow.isAlphanumeric (halnum c hc)
  -- A capital of the lowered word is one of the word, and starts no word there.
  have hplace : ∀ i, keepsCapitalAt word (i + 1) = true →
      startsWord word[i]? word[i + 2]? = false :=
    fun i hkeeps => hstarts i (any_isUpper_of_keepsCapitalAt hkeeps)
  rw [isWhole_iff_getElem?]
  simp only [any_isUpper_lowered hlow, startsWord_lowered hlow]
  constructor
  · rintro ⟨-, -, hlowStarts⟩ ⟨i, hkeeps, hbreaks⟩
    have hnot := hlowStarts i hkeeps
    rw [hplace i hkeeps, Bool.false_or, Bool.or_eq_false_iff] at hnot
    rcases hbreaks with hchanges | ⟨hcapital, hchanges⟩
    · simp [hchanges] at hnot
    · simp [hcapital, hchanges] at hnot
  · intro hnot
    refine ⟨lower_ne_nil hne, hlowAlnum, fun i hkeeps => ?_⟩
    rw [hplace i hkeeps, Bool.false_or, Bool.eq_false_iff]
    intro hbreaks
    rw [Bool.or_eq_true, Bool.and_eq_true] at hbreaks
    exact hnot ⟨i, hkeeps, hbreaks⟩

/-- A lowered word is whole exactly if the word has no dotted capital `I` and lowering lets no word
start in it. -/
theorem isWhole_lower_iff {word : List Char} (h : IsWhole word) :
    IsWhole (lower word) ↔ 'İ' ∉ word ∧ ¬BreaksWhenLowered word := by
  by_cases hdot : 'İ' ∈ word
  · refine ⟨fun hwhole => ?_, fun hnot => absurd hdot hnot.1⟩
    have halnum := ((isWhole_iff_getElem? _).mp hwhole).2.1 _ (dot_mem_lowerFrom hdot [])
    have hmark : isAlphanumeric '\u0307' = false := by decide +kernel
    rw [hmark] at halnum
    cases halnum
  · rw [isWhole_lower_iff_of_notMem h hdot]
    exact ⟨fun hnot => ⟨hdot, hnot⟩, fun hnot => hnot.2⟩

/-- The words of a lowered text are cut from it as they are. -/
theorem splitWords_lower (text : List Char) :
    splitWords (lower text) = splitFrom [] (lower text) := by
  have hword : ∀ word ∈ splitFrom [] (lower text), lower word = word := fun word hword =>
    lowerFrom_eq_self (fun c hc =>
      lowerSimple_of_mem_lowerFrom (mem_of_mem_splitFrom hword hc).1) []
  rw [splitWords, List.map_congr_left hword, List.map_id']

/-- A mark in ASCII is not left behind by lowering a word. -/
theorem isJoinable_of_mem_splitWords {mark : Char} (hmark : IsMark mark)
    (hascii : isAscii mark = true) {text word : List Char} (h : word ∈ splitWords text) :
    IsJoinable mark word := by
  obtain ⟨raw, hraw, rfl⟩ := List.mem_map.mp h
  refine ⟨lower_ne_nil (ne_nil_of_mem_splitFrom hraw), fun hmem => ?_⟩
  rcases lowersTo_of_mem_lowerFrom hmem with ⟨-, rfl⟩ | ⟨c, hc, hlow⟩
  · exact absurd hascii (by decide)
  · have halnum := hlow.isAlphanumeric (mem_of_mem_splitFrom hraw hc).2
    rw [hmark.1] at halnum
    cases halnum

/-- A lowered word has words. -/
theorem splitWords_ne_nil_of_mem {text word : List Char} (h : word ∈ splitWords text) :
    splitWords word ≠ [] := by
  obtain ⟨raw, hraw, rfl⟩ := List.mem_map.mp h
  obtain ⟨c, rest, rfl⟩ := List.exists_cons_of_ne_nil (ne_nil_of_mem_splitFrom hraw)
  obtain ⟨low, hlow, hform⟩ := exists_lowerFrom_cons [] c rest
  have halnum : isAlphanumeric low = true :=
    hlow.isAlphanumeric (mem_of_mem_splitFrom hraw List.mem_cons_self).2
  have hmem : low ∈ (splitFrom [] (lower (c :: rest))).flatten := by
    rw [flatten_splitFrom, List.reverse_nil, List.nil_append, List.mem_filter, lower, hform]
    exact ⟨List.mem_cons_self, halnum⟩
  rw [splitWords_lower]
  intro hnil
  rw [hnil] at hmem
  cases hmem

/-- A text converted to `snake_case` is left as it is by converting it again exactly if none of its
words had a dotted capital `I` or is one in which lowering lets a word start. -/
theorem convert_convert_snake_iff (rule other : AcronymRule) (text : List Char) :
    convert .snake other (convert .snake rule text) = convert .snake rule text ↔
      ∀ word ∈ splitFrom [] text, 'İ' ∉ word ∧ ¬BreaksWhenLowered word := by
  rw [convert, convert, splitWords_joinWith isMark_lowLine]
  refine (joinWith_flatMap_iff (fun _ hw => isJoinable_of_mem_splitWords isMark_lowLine rfl hw)
    fun w hw => ⟨splitWords_ne_nil_of_mem hw, fun _ hx =>
      isJoinable_of_mem_splitWords isMark_lowLine rfl hx⟩).trans ?_
  rw [splitWords, List.forall_mem_map]
  refine forall₂_congr fun word hword => ?_
  rw [splitWords_lower]
  exact isWhole_lower_iff (isWhole_of_mem_splitFrom hword)

/-- The dotted capital `I` loses its dot when it is converted again, and a bold capital behind a
letter becomes a word of its own. -/
theorem convert_convert_snake_dot_and_bold :
    convert .snake {} "İ".toList = ['i', '\u0307'] ∧
      convert .snake {} (convert .snake {} "İ".toList) ≠ convert .snake {} "İ".toList ∧
      convert .snake {} (convert .snake {} "A𝐀".toList) ≠ convert .snake {} "A𝐀".toList := by
  have hdot : ['İ'] ∈ splitFrom [] "İ".toList := by decide +kernel
  have hbold : ['A', '𝐀'] ∈ splitFrom [] "A𝐀".toList := by decide +kernel
  have hbreaks : BreaksWhenLowered ['A', '𝐀'] := ⟨0, by decide +kernel, .inl (by decide)⟩
  refine ⟨by decide +kernel, fun h => ?_, fun h => ?_⟩
  · exact ((convert_convert_snake_iff {} {} "İ".toList).mp h _ hdot).1 List.mem_cons_self
  · exact ((convert_convert_snake_iff {} {} "A𝐀".toList).mp h _ hbold).2 hbreaks

end LabelTally.Label
