import LabelTally.Label.Words
import LabelTally.Proofs.Text.Casing

/-!
# The words of a label

Splitting drops the characters that are not alphanumeric and nothing else, and no word is empty. A
mark between two texts separates their words. A word is whole when splitting it gives only itself:
then no capital in it stands where a word would start. The words of a text are whole: what starts a
word at the end of a text does so before any other character, too.
-/

namespace LabelTally.Label

open Text

/-- Nothing is closed before the first character of a word. -/
@[simp] theorem closeWord_nil : closeWord [] = [] := rfl

/-- An open word is closed as it was read. -/
@[simp] theorem closeWord_cons (c : Char) (current : List Char) :
    closeWord (c :: current) = [(c :: current).reverse] := rfl

/-- Splitting keeps the alphanumeric characters in their order. -/
theorem flatten_splitFrom (current text : List Char) :
    (splitFrom current text).flatten = current.reverse ++ text.filter isAlphanumeric := by
  have hclose : ∀ word : List Char, (closeWord word).flatten = word.reverse := by
    intro word
    cases word <;> simp
  fun_induction splitFrom current text with
  | case1 current => simp [hclose]
  | case2 current c rest hmark ih =>
    rw [List.flatten_append, hclose, ih, List.filter_cons_of_neg (by simpa using hmark)]
    rfl
  | case3 current c rest hmark hstart ih =>
    rw [List.flatten_append, hclose, ih, List.filter_cons_of_pos (by simpa using hmark)]
    rfl
  | case4 current c rest hmark hstart ih =>
    rw [ih, List.filter_cons_of_pos (by simpa using hmark)]
    simp

/-- No word is empty. -/
theorem ne_nil_of_mem_splitFrom {current text word : List Char}
    (h : word ∈ splitFrom current text) : word ≠ [] := by
  have hclose : ∀ other : List Char, word ∈ closeWord other → word ≠ [] := by
    intro other hmem
    cases other with
    | nil => cases hmem
    | cons c other => simp [List.mem_singleton.mp hmem]
  fun_induction splitFrom current text with
  | case1 current => exact hclose current h
  | case2 current c rest hmark ih => exact (List.mem_append.mp h).elim (hclose current) ih
  | case3 current c rest hmark hstart ih => exact (List.mem_append.mp h).elim (hclose current) ih
  | case4 current c rest hmark hstart ih => exact ih h

/-- The characters of a word are alphanumeric characters of the text. -/
theorem mem_of_mem_splitFrom {text word : List Char} (h : word ∈ splitFrom [] text) {c : Char}
    (hc : c ∈ word) : c ∈ text ∧ isAlphanumeric c = true := by
  have hmem : c ∈ (splitFrom [] text).flatten := List.mem_flatten.mpr ⟨word, h, hc⟩
  rw [flatten_splitFrom, List.reverse_nil, List.nil_append, List.mem_filter] at hmem
  exact hmem

/-- The character separates words and is no small letter. -/
def IsMark (c : Char) : Prop := isAlphanumeric c = false ∧ isLower c = false

instance : DecidablePred IsMark := fun c =>
  inferInstanceAs (Decidable (isAlphanumeric c = false ∧ isLower c = false))

/-- The low line is a mark. -/
theorem isMark_lowLine : IsMark '_' := by decide

/-- The hyphen is a mark. -/
theorem isMark_hyphen : IsMark '-' := by decide

/-- A mark separates the words before it from those after it. -/
theorem splitFrom_append_mark {mark : Char} (hmark : IsMark mark)
    (current before after : List Char) :
    splitFrom current (before ++ mark :: after) =
      splitFrom current before ++ splitFrom [] after := by
  induction before generalizing current with
  | nil => simp [splitFrom, hmark.1]
  | cons c rest ih =>
    -- The mark is no small letter, so it starts no word earlier than the end of the text would.
    have hnext : ∀ previous : Option Char, startsWord previous (rest ++ mark :: after).head? =
        startsWord previous rest.head? := by
      intro previous
      cases rest with
      | nil => simp [startsWord, hmark.2]
      | cons d rest => rfl
    simp only [List.cons_append, splitFrom, hnext, ih]
    split
    · rw [List.append_assoc]
    · split
      · rw [List.append_assoc]
      · rfl

/-- Splitting a text gives only the text. -/
def IsWhole (word : List Char) : Prop := splitFrom [] word = [word]

/-- No word starts in the text, which follows a character. -/
def Unbroken (previous : Char) : List Char → Prop
  | [] => True
  | c :: rest =>
    isAlphanumeric c = true ∧
      ¬(isUpper c = true ∧ startsWord (some previous) rest.head? = true) ∧ Unbroken c rest

/-- An open word goes on to the end of the text exactly if no other word starts in it. -/
theorem splitFrom_eq_singleton_iff (p : Char) (current text : List Char) :
    splitFrom (p :: current) text = [(p :: current).reverse ++ text] ↔ Unbroken p text := by
  induction text generalizing p current with
  | nil => simp [splitFrom, Unbroken]
  | cons c rest ih =>
    rw [splitFrom, Unbroken]
    by_cases halnum : isAlphanumeric c = true
    · by_cases hstart : isUpper c = true ∧ startsWord (some p) rest.head? = true
      · rw [if_neg (by simp [halnum]), if_pos (by simp [hstart])]
        refine ⟨fun h => ?_, fun h => absurd hstart h.2.1⟩
        -- The closed word would be the only one, but the next one is not empty.
        have hempty : splitFrom [c] rest = [] := (List.cons.inj h).2
        have hflat := flatten_splitFrom [c] rest
        rw [hempty] at hflat
        simp at hflat
      · rw [if_neg (by simp [halnum]), if_neg (by simpa using hstart)]
        have hword : (p :: current).reverse ++ c :: rest = (c :: p :: current).reverse ++ rest := by
          simp
        rw [hword, ih c (p :: current)]
        exact ⟨fun h => ⟨halnum, hstart, h⟩, fun h => h.2.2⟩
    · rw [if_pos (by simpa using halnum)]
      refine ⟨fun h => ?_, fun h => absurd h.1 halnum⟩
      have hhead := (List.cons.inj h).1
      simp at hhead

/-- A word is whole exactly if it has a first character and no word starts after that. -/
theorem isWhole_cons_iff (c : Char) (rest : List Char) :
    IsWhole (c :: rest) ↔ isAlphanumeric c = true ∧ Unbroken c rest := by
  rw [IsWhole, splitFrom]
  by_cases halnum : isAlphanumeric c = true
  · rw [if_neg (by simp [halnum]), if_neg (by simp)]
    simpa [halnum] using splitFrom_eq_singleton_iff c [] rest
  · rw [if_pos (by simpa using halnum), closeWord_nil, List.nil_append]
    refine ⟨fun h => ?_, fun h => absurd h.1 halnum⟩
    have hword : c :: rest ∈ splitFrom [] rest := h ▸ List.mem_singleton_self _
    exact absurd (mem_of_mem_splitFrom hword List.mem_cons_self).2 halnum

/-- No word starts where there are no capitals. -/
theorem unbroken_of_no_upper {text : List Char}
    (h : ∀ c ∈ text, isAlphanumeric c = true ∧ isUpper c = false) (previous : Char) :
    Unbroken previous text := by
  induction text generalizing previous with
  | nil => trivial
  | cons c rest ih =>
    obtain ⟨halnum, hupper⟩ := h c List.mem_cons_self
    exact ⟨halnum, by simp [hupper], ih (fun d hd => h d (List.mem_cons_of_mem _ hd)) c⟩

/-- No word starts in the text exactly if all its characters are alphanumeric and no capital stands
where a word would start. -/
theorem unbroken_iff_getElem? (p : Char) (text : List Char) :
    Unbroken p text ↔ (∀ c ∈ text, isAlphanumeric c = true) ∧
      ∀ i, (p :: text)[i + 1]?.any isUpper = true →
        startsWord (p :: text)[i]? (p :: text)[i + 2]? = false := by
  induction text generalizing p with
  | nil => simp [Unbroken]
  | cons c rest ih =>
    have hplaces : (∀ i, (p :: c :: rest)[i + 1]?.any isUpper = true →
        startsWord (p :: c :: rest)[i]? (p :: c :: rest)[i + 2]? = false) ↔
        ¬(isUpper c = true ∧ startsWord (some p) rest.head? = true) ∧
          ∀ i, (c :: rest)[i + 1]?.any isUpper = true →
            startsWord (c :: rest)[i]? (c :: rest)[i + 2]? = false := by
      rw [← Nat.and_forall_add_one]
      simp [List.head?_eq_getElem?]
    rw [Unbroken, ih, hplaces, List.forall_mem_cons]
    tauto

/-- A word is whole exactly if it is not empty, all its characters are alphanumeric and no capital
in it stands where a word would start. -/
theorem isWhole_iff_getElem? (word : List Char) :
    IsWhole word ↔ word ≠ [] ∧ (∀ c ∈ word, isAlphanumeric c = true) ∧
      ∀ i, word[i + 1]?.any isUpper = true → startsWord word[i]? word[i + 2]? = false := by
  cases word with
  | nil => simp [IsWhole, splitFrom]
  | cons c rest =>
    rw [isWhole_cons_iff, unbroken_iff_getElem?, List.forall_mem_cons]
    simp only [ne_eq, reduceCtorEq, not_false_eq_true, true_and, and_assoc]

/-- A capital that starts a word at the end of the text does so before any character. -/
theorem startsWord_of_none {previous : Option Char} (h : startsWord previous none = true)
    (next : Option Char) : startsWord previous next = true := by
  simp only [startsWord, Option.any_none, Bool.and_false, Bool.or_false] at h
  rw [startsWord, h, Bool.true_or]

/-- The open word is whole with whatever goes on like the text, or ends here. -/
def IsOpen (current : List Char) (next : Option Char) : Prop :=
  ∀ p earlier more, current = p :: earlier → Unbroken p more → (more = [] ∨ more.head? = next) →
    IsWhole (current.reverse ++ more)

/-- Between words nothing is open. -/
theorem isOpen_nil (next : Option Char) : IsOpen [] next :=
  fun _ _ _ hnil => absurd hnil (List.cons_ne_nil _ _).symm

/-- A character opens a word. -/
theorem isOpen_singleton {c : Char} (h : isAlphanumeric c = true) (next : Option Char) :
    IsOpen [c] next := by
  intro p earlier more hcurrent hmore _
  obtain ⟨rfl, -⟩ := List.cons.inj hcurrent
  exact (isWhole_cons_iff c more).mpr ⟨h, hmore⟩

/-- An open word that goes on stays open. -/
theorem IsOpen.cons {p : Char} {earlier : List Char} {c : Char} {next : Option Char}
    (h : IsOpen (p :: earlier) (some c)) (halnum : isAlphanumeric c = true)
    (hstart : ¬(isUpper c = true ∧ startsWord (some p) next = true)) :
    IsOpen (c :: p :: earlier) next := by
  intro q before more hcurrent hmore hnext
  obtain ⟨rfl, -⟩ := List.cons.inj hcurrent
  have hgoes : Unbroken p (c :: more) := by
    refine ⟨halnum, fun ⟨hupper, hstarts⟩ => hstart ⟨hupper, ?_⟩, hmore⟩
    rcases hnext with rfl | hhead
    · exact startsWord_of_none hstarts next
    · rwa [hhead] at hstarts
  have hword := h p earlier (c :: more) rfl hgoes (.inr rfl)
  simpa using hword

/-- A word is whole if it was open in front of its text. -/
theorem IsOpen.isWhole_of_mem {current text word : List Char}
    (hopen : IsOpen current text.head?) (h : word ∈ splitFrom current text) : IsWhole word := by
  have hclose : ∀ {held : List Char} {next : Option Char}, IsOpen held next →
      word ∈ closeWord held → IsWhole word := by
    intro held next hopen hmem
    cases held with
    | nil => cases hmem
    | cons p earlier =>
      rw [List.mem_singleton.mp hmem]
      simpa using hopen p earlier [] rfl trivial (.inl rfl)
  fun_induction splitFrom current text with
  | case1 current => exact hclose hopen h
  | case2 current c rest hmark ih =>
    exact (List.mem_append.mp h).elim (hclose hopen) (ih (isOpen_nil _))
  | case3 current c rest hmark hstart ih =>
    have halnum : isAlphanumeric c = true := by simpa using hmark
    exact (List.mem_append.mp h).elim (hclose hopen) (ih (isOpen_singleton halnum _))
  | case4 current c rest hmark hstart ih =>
    have halnum : isAlphanumeric c = true := by simpa using hmark
    cases current with
    | nil => exact ih (isOpen_singleton halnum _) h
    | cons p earlier => exact ih (hopen.cons halnum (by simpa using hstart)) h

/-- The words of a text are whole. -/
theorem isWhole_of_mem_splitFrom {text word : List Char} (h : word ∈ splitFrom [] text) :
    IsWhole word :=
  (isOpen_nil _).isWhole_of_mem h

end LabelTally.Label
