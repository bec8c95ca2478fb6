import LabelTally.Proofs.Label.Forms
import LabelTally.Proofs.Label.Joined

/-!
# The grammar of a style

Which ASCII texts are in a style, said without conversion: a separated style has words of one shape
between single marks, a joined style restricts which capitals can stand next to each other.
-/

namespace LabelTally.Label

open Text

/-- Small letters and digits, at least one. -/
def IsSmallWord (word : List Char) : Prop :=
  word ≠ [] ∧ ∀ c ∈ word, c.isLower = true ∨ c.isDigit = true

/-- Capitals and then digits, at least one of either. -/
def IsRaisedWord (word : List Char) : Prop :=
  word ≠ [] ∧ ∃ letters digits, word = letters ++ digits ∧
    (∀ c ∈ letters, c.isUpper = true) ∧ ∀ c ∈ digits, c.isDigit = true

/-- A capital or a digit and then small letters and digits. -/
def IsCapitalWord (word : List Char) : Prop :=
  ∃ c rest, word = c :: rest ∧ (c.isUpper = true ∨ c.isDigit = true) ∧
    ∀ d ∈ rest, d.isLower = true ∨ d.isDigit = true

/-- The text is empty or has words with single marks between them. -/
def IsMarked (mark : Char) (IsWord : List Char → Prop) (text : List Char) : Prop :=
  ∃ words, (∀ w ∈ words, IsWord w) ∧ text = [mark].intercalate words

/-- Letters and digits in which a capital directly after a capital is directly before a small
letter. The first character is no capital if the text starts small and no small letter if not. -/
structure IsJoined (startsSmall : Bool) (text : List Char) : Prop where
  /-- The text has letters and digits only. -/
  alphanum : ∀ c ∈ text, c.isAlphanum = true
  /-- The first character has not the other case. -/
  first : (if startsSmall then capitalAt text 0 else smallAt text 0) = false
  /-- Two capitals in a row are followed by a small letter. -/
  capitals : ∀ i, capitalAt text i = true → capitalAt text (i + 1) = true →
    smallAt text (i + 2) = true

/-- The texts that a style describes. -/
def Style.Grammar : Style → List Char → Prop
  | .camel => IsJoined true
  | .pascal => IsJoined false
  | .snake => IsMarked '_' IsSmallWord
  | .screamingSnake => IsMarked '_' IsRaisedWord
  | .kebab => IsMarked '-' IsSmallWord
  | .train => IsMarked '-' IsCapitalWord

/-- The words of a lowered style. -/
theorem isFixed_id_iff_isSmallWord (word : List Char) :
    IsAsciiWord word ∧ IsFixed id word ↔ IsSmallWord word := by
  constructor
  · rintro ⟨hword, hfixed⟩
    exact ⟨hword.1, (isFixed_id_iff hword).mp hfixed⟩
  · rintro ⟨hne, hchars⟩
    have hword : IsAsciiWord word :=
      ⟨hne, fun c hc => (hchars c hc).elim isAlphanum_of_isLower isAlphanum_of_isDigit⟩
    exact ⟨hword, (isFixed_id_iff hword).mpr hchars⟩

/-- The words of a capitalized style. -/
theorem isFixed_capitalize_iff_isCapitalWord (word : List Char) :
    IsAsciiWord word ∧ IsFixed capitalize word ↔ IsCapitalWord word := by
  constructor
  · rintro ⟨hword, hfixed⟩
    cases word with
    | nil => exact absurd rfl hword.1
    | cons c rest => exact ⟨c, rest, rfl, (isFixed_capitalize_iff hword).mp hfixed⟩
  · rintro ⟨c, rest, rfl, hchars⟩
    have hword : IsAsciiWord (c :: rest) := by
      refine ⟨by simp, List.forall_mem_cons.mpr ⟨?_, fun d hd => ?_⟩⟩
      · exact hchars.1.elim isAlphanum_of_isUpper isAlphanum_of_isDigit
      · exact (hchars.2 d hd).elim isAlphanum_of_isLower isAlphanum_of_isDigit
    exact ⟨hword, (isFixed_capitalize_iff hword).mpr hchars⟩

/-- If no capital follows a digit, the capitals stand before the digits. -/
theorem exists_append_of_isChain {word : List Char}
    (hchars : ∀ c ∈ word, c.isUpper = true ∨ c.isDigit = true)
    (hchain : word.IsChain NoCapitalAfterDigit) :
    ∃ letters digits, word = letters ++ digits ∧
      (∀ c ∈ letters, c.isUpper = true) ∧ ∀ c ∈ digits, c.isDigit = true := by
  induction word with
  | nil => exact ⟨[], [], rfl, by simp, by simp⟩
  | cons c rest ih =>
    obtain ⟨letters, digits, rfl, hletters, hdigits⟩ :=
      ih (fun d hd => hchars d (List.mem_cons_of_mem _ hd)) hchain.tail
    rcases hchars c List.mem_cons_self with hupper | hdigit
    · exact ⟨c :: letters, digits, rfl, List.forall_mem_cons.mpr ⟨hupper, hletters⟩, hdigits⟩
    · cases letters with
      | nil => exact ⟨[], c :: digits, rfl, by simp, List.forall_mem_cons.mpr ⟨hdigit, hdigits⟩⟩
      | cons d letters =>
        exact absurd ⟨hdigit, hletters d List.mem_cons_self⟩ (List.isChain_cons_cons.mp hchain).1

/-- No capital follows a digit where capitals stand before digits. -/
theorem isChain_append {letters digits : List Char} (hletters : ∀ c ∈ letters, c.isUpper = true)
    (hdigits : ∀ c ∈ digits, c.isDigit = true) :
    (letters ++ digits).IsChain NoCapitalAfterDigit := by
  have hnotDigit : ∀ a ∈ letters, ∀ b, NoCapitalAfterDigit a b := by
    rintro a ha b ⟨hdigit, _⟩
    rw [not_isDigit_of_isUpper (hletters a ha)] at hdigit
    cases hdigit
  have hnotUpper : ∀ b ∈ digits, ∀ a, NoCapitalAfterDigit a b := by
    rintro b hb a ⟨_, hupper⟩
    rw [not_isUpper_of_isDigit (hdigits b hb)] at hupper
    cases hupper
  refine (List.pairwise_append.mpr ⟨?_, ?_, fun a ha b _ => hnotDigit a ha b⟩).isChain
  · exact List.pairwise_of_forall_mem_list fun a ha b _ => hnotDigit a ha b
  · exact List.pairwise_of_forall_mem_list fun a _ b hb => hnotUpper b hb a

/-- The words of a raised style. -/
theorem isFixed_upper_iff_isRaisedWord (word : List Char) :
    IsAsciiWord word ∧ IsFixed upper word ↔ IsRaisedWord word := by
  constructor
  · rintro ⟨hword, hfixed⟩
    obtain ⟨hchars, hchain⟩ := (isFixed_upper_iff hword).mp hfixed
    exact ⟨hword.1, exists_append_of_isChain hchars hchain⟩
  · rintro ⟨hne, letters, digits, rfl, hletters, hdigits⟩
    have hchars : ∀ c ∈ letters ++ digits, c.isUpper = true ∨ c.isDigit = true := by
      intro c hc
      exact (List.mem_append.mp hc).imp (hletters c) (hdigits c)
    have hword : IsAsciiWord (letters ++ digits) :=
      ⟨hne, fun c hc => (hchars c hc).elim isAlphanum_of_isUpper isAlphanum_of_isDigit⟩
    exact ⟨hword, (isFixed_upper_iff hword).mpr ⟨hchars, isChain_append hletters hdigits⟩⟩

/-- A separated style describes the texts that have its words between its marks. -/
theorem separate_eq_self_iff_isMarked {mark : Char} (hmark : IsMark mark)
    {form : List Char → List Char} (hform : KeepsWords form) {IsWord : List Char → Prop}
    (hword : ∀ w, IsAsciiWord w ∧ IsFixed form w ↔ IsWord w) {text : List Char}
    (h : IsAsciiText text) : separate mark form text = text ↔ IsMarked mark IsWord text := by
  rw [separate_eq_self_iff hmark hform h]
  exact exists_congr fun words => and_congr_left' (forall₂_congr fun w _ => hword w)

/-- A joined text is settled. -/
theorem IsJoined.isSettled {startsSmall : Bool} {text : List Char} (h : IsJoined startsSmall text) :
    IsSettled startsSmall [] text := by
  refine ⟨h.alphanum, fun i hi => ?_, fun hbig hletter => ?_⟩
  · rw [acronymAt_nil] at hi
    cases hi
  · have hfirst := h.first
    rw [hbig, if_neg Bool.false_ne_true, smallAt_eq, hletter, Bool.true_and] at hfirst
    simpa using hfirst

/-- The first character of a joined text is a capital if it can be one. -/
theorem IsJoined.letterAt_zero {startsSmall : Bool} {text : List Char}
    (h : IsJoined startsSmall text) :
    (letterAt text 0 && !(startsSmall && true)) = capitalAt text 0 := by
  have hfirst := h.first
  cases startsSmall with
  | true =>
    rw [if_pos rfl] at hfirst
    rw [hfirst, Bool.and_true, Bool.not_true, Bool.and_false]
  | false =>
    rw [if_neg Bool.false_ne_true, smallAt_eq] at hfirst
    cases hcapital : capitalAt text 0 with
    | false => simpa [hcapital] using hfirst
    | true => rw [letterAt_of_capitalAt hcapital]; rfl

/-- A pass without acronyms leaves a text as it is exactly if the text is joined. -/
theorem joinOnce_eq_self_iff (startsSmall : Bool) {text : List Char} (h : IsAsciiText text) :
    joinOnce startsSmall [] text = text ↔ IsJoined startsSmall text := by
  constructor
  · intro hself
    have hsettled : IsSettled startsSmall [] text := hself ▸ isSettled_joinOnce h
    have hcapital : ∀ i, capitalAt text i = (wordAt text i && !(startsSmall && i == 0)) := by
      intro i
      rw [← Bool.or_false (_ && _), ← acronymAt_nil text i, ← hsettled.capitalAt_joinOnce, hself]
    refine ⟨hsettled.alphanum, ?_, fun i hbehind hhere => ?_⟩
    · cases startsSmall with
      | true => simpa using hcapital 0
      | false =>
        rw [if_neg Bool.false_ne_true, smallAt_eq]
        cases hletter : letterAt text 0 with
        | false => rfl
        | true => rw [hsettled.first rfl hletter]; rfl
    · rw [hcapital, wordAt, hbehind, Bool.and_eq_true, Bool.and_eq_true] at hhere
      exact hhere.1.2
  · intro hjoined
    have hsettled := hjoined.isSettled
    refine eq_of_capitalAt hsettled.lowered_joinOnce fun i => ?_
    rw [hsettled.capitalAt_joinOnce, acronymAt_nil, Bool.or_false]
    cases i with
    | zero => exact hjoined.letterAt_zero
    | succ i =>
      rw [wordAt, beq_false_of_ne (Nat.succ_ne_zero i), Bool.and_false, Bool.not_false,
        Bool.and_true]
      cases hhere : capitalAt text (i + 1) with
      | false => rfl
      | true =>
        cases hbehind : capitalAt text i with
        | false => rfl
        | true => rw [hjoined.capitals i hbehind hhere]; rfl

/-- Two passes without acronyms leave a text as it is exactly if one pass does. -/
theorem joinTwice_eq_self_iff (startsSmall wordAware : Bool) {text : List Char}
    (h : IsAsciiText text) :
    joinTwice startsSmall ⟨[], wordAware⟩ text = text ↔ IsJoined startsSmall text := by
  have hpass : ∀ words, joinWords startsSmall ⟨[], wordAware⟩ words =
      joinWords startsSmall ⟨[], false⟩ words := by
    intro words
    simp [joinWords, caseWords]
  have hpasses : joinTwice startsSmall ⟨[], wordAware⟩ text =
      joinOnce startsSmall [] (joinOnce startsSmall [] text) := by
    show joinWords startsSmall ⟨[], wordAware⟩
      (splitWords (joinWords startsSmall ⟨[], wordAware⟩ (splitWords text))) = _
    rw [hpass, hpass]
    rfl
  rw [hpasses, ← joinOnce_eq_self_iff startsSmall h]
  constructor
  · intro htwice
    have hstable := joinOnce_stable startsSmall [] h
    rwa [htwice] at hstable
  · intro honce
    rw [honce, honce]

/-- Without acronyms, the ASCII texts in a style are those that its grammar describes. -/
theorem inStyle_iff_grammar {text : List Char} (h : IsAsciiText text) (style : Style)
    (wordAware : Bool) : inStyle style ⟨[], wordAware⟩ text = true ↔ style.Grammar text := by
  rw [inStyle, beq_iff_eq]
  cases style with
  | camel => exact joinTwice_eq_self_iff true wordAware h
  | pascal => exact joinTwice_eq_self_iff false wordAware h
  | snake =>
    show joinWith '_' (splitWords text) = text ↔ _
    rw [← separate_id]
    exact separate_eq_self_iff_isMarked isMark_lowLine keepsWords_id isFixed_id_iff_isSmallWord h
  | screamingSnake =>
    exact separate_eq_self_iff_isMarked isMark_lowLine keepsWords_upper
      isFixed_upper_iff_isRaisedWord h
  | kebab =>
    show joinWith '-' (splitWords text) = text ↔ _
    rw [← separate_id]
    exact separate_eq_self_iff_isMarked isMark_hyphen keepsWords_id isFixed_id_iff_isSmallWord h
  | train =>
    exact separate_eq_self_iff_isMarked isMark_hyphen keepsWords_capitalize
      isFixed_capitalize_iff_isCapitalWord h

/-- `A1_22` has the words of a raised style, and `parseURL` ends in a run of capitals. -/
theorem inStyle_digits_not_inStyle_run :
    IsAsciiText "A1_22".toList ∧ inStyle .screamingSnake ⟨[], false⟩ "A1_22".toList = true ∧
      IsAsciiText "parseURL".toList ∧ inStyle .camel ⟨[], false⟩ "parseURL".toList = false := by
  have hraised : IsAsciiText "A1_22".toList := by decide
  have hrun : IsAsciiText "parseURL".toList := by decide
  refine ⟨hraised, ?_, hrun, ?_⟩
  · have hletter : IsRaisedWord ['A', '1'] := ⟨by decide, ['A'], ['1'], rfl, by simp, by simp⟩
    have hdigits : IsRaisedWord ['2', '2'] := ⟨by decide, [], ['2', '2'], rfl, by simp, by simp⟩
    exact (inStyle_iff_grammar hraised .screamingSnake false).mpr
      ⟨[['A', '1'], ['2', '2']], by simp [hletter, hdigits], rfl⟩
  · rw [Bool.eq_false_iff, Ne, inStyle_iff_grammar hrun]
    exact fun h => absurd (h.capitals 5 (by decide) (by decide)) (by decide)

end LabelTally.Label
