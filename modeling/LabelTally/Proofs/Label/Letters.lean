import LabelTally.Proofs.Label.WordAware

/-!
# What conversion keeps

Conversion of ASCII text changes case and marks only. The letters and digits of the text stay, none
is lost, added or moved, whatever acronyms are raised; and what else is in the result is the mark of
the style, which stands only between letters and digits.
-/

namespace LabelTally.Label

open Text

/-- The mark that a style puts between words, if it has one. -/
def Style.mark? : Style → Option Char
  | .camel | .pascal => none
  | .snake | .screamingSnake => some '_'
  | .kebab | .train => some '-'

/-- The letters and digits of a text, without regard to case. -/
def bareText (text : List Char) : List Char := lower (text.filter isAlphanumeric)

/-- The text is of ASCII letters and digits, and of marks that stand between two of them. -/
structure IsSpaced (mark? : Option Char) (text : List Char) : Prop where
  /-- There is nothing else in the text. -/
  chars : ∀ c ∈ text, c.isAlphanum = true ∨ mark? = some c
  /-- No mark stands first. -/
  first : ∀ c, text.head? = some c → c.isAlphanum = true
  /-- No mark stands last. -/
  last : ∀ c, text.getLast? = some c → c.isAlphanum = true
  /-- No mark follows a mark. -/
  single : text.IsChain fun a b => a.isAlphanum = true ∨ b.isAlphanum = true

/-- In ASCII text letters and digits are lowered one by one. -/
theorem bareText_of_ascii {text : List Char} (h : IsAsciiText text) :
    bareText text = lowered (text.filter isAlphanumeric) :=
  lower_of_ascii fun c hc => h c (List.mem_filter.mp hc).1

/-! ## Marks between words -/

/-- Letters and digits alone are spaced, whatever the mark. -/
theorem isSpaced_of_isAlphanum {text : List Char} (h : ∀ c ∈ text, c.isAlphanum = true)
    (mark? : Option Char) : IsSpaced mark? text where
  chars c hc := .inl (h c hc)
  first c hc := h c (List.mem_of_head? hc)
  last c hc := h c (List.mem_of_getLast? hc)
  single := List.Pairwise.isChain (List.pairwise_of_forall_mem_list fun a ha _ _ => .inl (h a ha))

/-- A word and a mark can be put before a text that starts with a word. -/
theorem IsSpaced.cons {mark : Char} {word text : List Char} (hword : IsAsciiWord word)
    (h : IsSpaced (some mark) text) (hne : text ≠ []) :
    IsSpaced (some mark) (word ++ mark :: text) := by
  have hhead := isSpaced_of_isAlphanum hword.2 (some mark)
  obtain ⟨first, rest, rfl⟩ := List.exists_cons_of_ne_nil hne
  refine ⟨?_, fun c hc => ?_, fun c hc => ?_, ?_⟩
  · exact List.forall_mem_append.mpr ⟨hhead.chars, List.forall_mem_cons.mpr ⟨.inr rfl, h.chars⟩⟩
  · rw [List.head?_append_of_ne_nil _ hword.1] at hc
    exact hhead.first c hc
  · rw [List.getLast?_append_of_ne_nil _ (by simp), List.getLast?_cons_cons] at hc
    exact h.last c hc
  · -- The two seams: the mark has the last letter of the word before it and a letter after it.
    refine hhead.single.append (List.isChain_cons_cons.mpr ⟨.inr (h.first first rfl), h.single⟩) ?_
    intro a ha b _
    exact .inl (hhead.last a ha)

/-- Words with a mark between neighbours are spaced. -/
theorem isSpaced_joinWith (mark : Char) {words : List (List Char)}
    (h : ∀ w ∈ words, IsAsciiWord w) : IsSpaced (some mark) (joinWith mark words) := by
  induction words with
  | nil => exact isSpaced_of_isAlphanum (by simp [joinWith]) _
  | cons word rest ih =>
    obtain ⟨hword, hrest⟩ := List.forall_mem_cons.mp h
    cases rest with
    | nil => simpa [joinWith] using isSpaced_of_isAlphanum hword.2 (some mark)
    | cons next rest =>
      have hjoin : joinWith mark (word :: next :: rest) =
          word ++ mark :: joinWith mark (next :: rest) := by simp [joinWith]
      have hne : joinWith mark (next :: rest) ≠ [] := by
        have hnext := (hrest next List.mem_cons_self).1
        cases rest <;> simp [joinWith, hnext]
      rw [hjoin]
      exact (ih hrest).cons hword hne

/-- Without its marks joined text is the words. -/
theorem filter_joinWith {mark : Char} (hmark : IsMark mark) {words : List (List Char)}
    (h : ∀ w ∈ words, IsAsciiWord w) :
    (joinWith mark words).filter isAlphanumeric = words.flatten := by
  induction words with
  | nil => rfl
  | cons word rest ih =>
    obtain ⟨hword, hrest⟩ := List.forall_mem_cons.mp h
    have hkept : word.filter isAlphanumeric = word :=
      List.filter_eq_self.mpr fun c hc => (isAlphanumeric_of_isAlphanum (hword.2 c hc)).2
    cases rest with
    | nil => simp [joinWith, hkept]
    | cons next rest =>
      have hjoin : joinWith mark (word :: next :: rest) =
          word ++ mark :: joinWith mark (next :: rest) := by simp [joinWith]
      rw [hjoin, List.filter_append, hkept, List.filter_cons_of_neg (by simp [hmark.1]), ih hrest]
      rfl

/-! ## Separated styles -/

/-- The form of a lowered word has the letters of the word. -/
def KeepsLetters (form : List Char → List Char) : Prop :=
  ∀ word, IsAsciiWord word → lowered (form (lower word)) = lowered word

theorem keepsLetters_id : KeepsLetters id := fun word h => by
  rw [id, h.lower_eq, lowered_lowered]

theorem keepsLetters_upper : KeepsLetters upper := fun word h => by
  rw [h.upper_lower, lowered, List.map_map]
  exact List.map_congr_left fun c _ => Char.toLower_toUpper_eq_toLower c

theorem keepsLetters_capitalize : KeepsLetters capitalize := fun word h => by
  obtain ⟨c, rest, rfl⟩ := List.exists_cons_of_ne_nil h.1
  rw [h.capitalize_lower, lowered, List.map_cons, Char.toLower_toUpper_eq_toLower, ← lowered,
    lowered_lowered]
  rfl

section Separated

variable {mark : Char} {form : List Char → List Char} {text : List Char}
  (hwords : KeepsWords form) (ht : IsAsciiText text)
include hwords ht

/-- A separated style puts its marks between words. -/
theorem isSpaced_separate : IsSpaced (some mark) (separate mark form text) :=
  isSpaced_joinWith mark (isAsciiWord_of_mem_map_form hwords ht)

/-- A separated style keeps the letters and digits. -/
theorem lowered_filter_separate (hmark : IsMark mark) (hletters : KeepsLetters form) :
    lowered ((separate mark form text).filter isAlphanumeric) =
      lowered (text.filter isAlphanumeric) := by
  have hforms : ((splitFrom [] text).map fun w => lowered (form (lower w))) =
      (splitFrom [] text).map lowered :=
    List.map_congr_left fun w hw => hletters w (isAsciiWord_of_mem_splitFrom ht hw)
  have hflat := flatten_splitFrom [] text
  rw [List.reverse_nil, List.nil_append] at hflat
  rw [separate, filter_joinWith hmark (isAsciiWord_of_mem_map_form hwords ht), splitWords, ← hflat,
    lowered, lowered, List.map_flatten, List.map_flatten, List.map_map, List.map_map]
  exact congrArg List.flatten hforms

end Separated

/-! ## Joined styles -/

/-- A pass over a text keeps its letters and digits, and nothing else. -/
def KeepsOnlyLetters (pass : List Char → List Char) : Prop :=
  ∀ text, IsAsciiText text → lowered (pass text) = lowered (text.filter isAlphanumeric)

/-- What one pass keeps two passes keep. -/
theorem KeepsOnlyLetters.twice {pass : List Char → List Char} (h : KeepsOnlyLetters pass) :
    KeepsOnlyLetters fun text => pass (pass text) := by
  intro text ht
  have halnum := isAlphanum_of_lowered_eq ht (h text ht)
  rw [h _ (isAsciiText_of_isAlphanum halnum), List.filter_eq_self.mpr fun c hc =>
    (isAlphanumeric_of_isAlphanum (halnum c hc)).2, h text ht]

/-- A joined style keeps the letters and digits, and nothing else. -/
theorem keepsOnlyLetters_joinTwice (startsSmall : Bool) (rule : AcronymRule) :
    KeepsOnlyLetters (joinTwice startsSmall rule) := by
  obtain ⟨acronyms, wordAware⟩ := rule
  cases wordAware with
  | false =>
    have hpass : KeepsOnlyLetters (joinOnce startsSmall (acronyms.filter (!·.isEmpty))) :=
      fun text ht => lowered_joinOnce startsSmall _ ht
    exact hpass.twice
  | true =>
    have hpass : KeepsOnlyLetters (awareOnce startsSmall (acronyms.filter (!·.isEmpty))) :=
      fun text ht => lowered_awareOnce startsSmall _ ht
    exact hpass.twice

section Joined

variable {text : List Char} (ht : IsAsciiText text) (startsSmall : Bool) (rule : AcronymRule)
include ht

/-- Joined text has letters and digits only. -/
theorem isAlphanum_joinTwice : ∀ c ∈ joinTwice startsSmall rule text, c.isAlphanum = true :=
  isAlphanum_of_lowered_eq ht (keepsOnlyLetters_joinTwice startsSmall rule text ht)

theorem lowered_filter_joinTwice :
    lowered ((joinTwice startsSmall rule text).filter isAlphanumeric) =
      lowered (text.filter isAlphanumeric) := by
  rw [List.filter_eq_self.mpr fun c hc =>
    (isAlphanumeric_of_isAlphanum (isAlphanum_joinTwice ht startsSmall rule c hc)).2]
  exact keepsOnlyLetters_joinTwice startsSmall rule text ht

end Joined

/-! ## All styles -/

/-- Conversion puts single marks of the style between letters and digits. -/
theorem isSpaced_convert (style : Style) (rule : AcronymRule) {text : List Char}
    (h : IsAsciiText text) : IsSpaced style.mark? (convert style rule text) := by
  cases style with
  | camel => exact isSpaced_of_isAlphanum (isAlphanum_joinTwice h true rule) _
  | pascal => exact isSpaced_of_isAlphanum (isAlphanum_joinTwice h false rule) _
  | snake =>
    rw [convert, ← separate_id]
    exact isSpaced_separate keepsWords_id h
  | screamingSnake => exact isSpaced_separate keepsWords_upper h
  | kebab =>
    rw [convert, ← separate_id]
    exact isSpaced_separate keepsWords_id h
  | train => exact isSpaced_separate keepsWords_capitalize h

/-- Conversion keeps the letters and digits up to case. -/
theorem lowered_filter_convert (style : Style) (rule : AcronymRule) {text : List Char}
    (h : IsAsciiText text) :
    lowered ((convert style rule text).filter isAlphanumeric) =
      lowered (text.filter isAlphanumeric) := by
  cases style with
  | camel => exact lowered_filter_joinTwice h true rule
  | pascal => exact lowered_filter_joinTwice h false rule
  | snake =>
    rw [convert, ← separate_id]
    exact lowered_filter_separate keepsWords_id h isMark_lowLine keepsLetters_id
  | screamingSnake =>
    exact lowered_filter_separate keepsWords_upper h isMark_lowLine keepsLetters_upper
  | kebab =>
    rw [convert, ← separate_id]
    exact lowered_filter_separate keepsWords_id h isMark_hyphen keepsLetters_id
  | train =>
    exact lowered_filter_separate keepsWords_capitalize h isMark_hyphen keepsLetters_capitalize

/-- Conversion of ASCII text changes case and marks only: the letters and digits are the same up to
case, and all else in the result is the mark of the style, never first, last or doubled. -/
theorem convert_keeps_letters {text : List Char} (h : IsAsciiText text) (style : Style)
    (rule : AcronymRule) :
    bareText (convert style rule text) = bareText text ∧
      IsSpaced style.mark? (convert style rule text) := by
  have hspaced := isSpaced_convert style rule h
  have hascii : IsAsciiText (convert style rule text) := by
    intro c hc
    rcases hspaced.chars c hc with halnum | hmark
    · exact (isAlphanumeric_of_isAlphanum halnum).1
    · cases style <;> cases hmark <;> decide
  refine ⟨?_, hspaced⟩
  rw [bareText_of_ascii hascii, bareText_of_ascii h, lowered_filter_convert style rule h]

/-- Acronyms that overlap, one of them with a letter outside ASCII that stands for `s`, raise parts
of two words; the marks of the text are dropped. -/
theorem convert_keeps_letters_straddling_acronyms :
    IsAsciiText "--valid_ids.2x".toList ∧
      convert .pascal ⟨["ID".toList, "dſ".toList, []], false⟩ "--valid_ids.2x".toList =
        "ValIDIDS2x".toList ∧
      bareText (convert .pascal ⟨["ID".toList, "dſ".toList, []], false⟩ "--valid_ids.2x".toList) =
        "validids2x".toList ∧
      IsSpaced none
        (convert .pascal ⟨["ID".toList, "dſ".toList, []], false⟩ "--valid_ids.2x".toList) ∧
      convert .train {} "--valid_ids.2x".toList = "Valid-Ids-2x".toList ∧
      IsSpaced (some '-') (convert .train {} "--valid_ids.2x".toList) := by
  have hascii : IsAsciiText "--valid_ids.2x".toList := by decide
  have hpascal := convert_keeps_letters hascii .pascal ⟨["ID".toList, "dſ".toList, []], false⟩
  have hsort : sortTexts ["ID".toList, "dſ".toList] = ["ID".toList, "dſ".toList] := by cbv
  have hpass : ∀ text, IsAsciiText text → joinOnce false ["ID".toList, "dſ".toList] text =
      raise "dſ".toList (raise "ID".toList (lowerFirst false (recase none text))) := by
    intro text h
    rw [joinOnce_eq _ _ h, raiseAll, hsort]
    rfl
  have honce : joinOnce false ["ID".toList, "dſ".toList] "--valid_ids.2x".toList =
      "ValIDIDS2x".toList := by
    rw [hpass _ hascii]
    decide +kernel
  have hconvert : convert .pascal ⟨["ID".toList, "dſ".toList, []], false⟩ "--valid_ids.2x".toList =
      "ValIDIDS2x".toList := by
    show joinOnce false ["ID".toList, "dſ".toList] (joinOnce false ["ID".toList, "dſ".toList] _) = _
    rw [honce, hpass _ (by decide)]
    decide +kernel
  exact ⟨hascii, hconvert, hpascal.1.trans (by decide +kernel), hpascal.2, by decide +kernel,
    (convert_keeps_letters hascii .train {}).2⟩

end LabelTally.Label
