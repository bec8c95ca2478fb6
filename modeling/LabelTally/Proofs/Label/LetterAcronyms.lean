import LabelTally.Proofs.Label.WordAware

/-!
# Acronyms without digits

What a pass leaves has no acronym with small letters behind a capital, unless the acronym has
digits: a capital and the small letters behind it, up to a capital or the end of the text, are a
whole word of the text before, and that would have been raised. So without digits in acronyms the
words stay the same from the first pass on, and conversion is idempotent. Digits make the
difference, since they start no word: they join the word before them and can complete an acronym.
-/

namespace LabelTally.Label

open Text

/-- The form of a word begins with a raised character, and goes on raised if the word is an acronym.
-/
theorem wordForm_cons {c : Char} {rest : List Char} (h : IsSmallWord (c :: rest))
    (wanted : List (List Char)) :
    wordForm wanted (c :: rest) =
      c.toUpper :: if wanted.contains (c :: rest) then rest.map Char.toUpper else rest := by
  rw [wordForm]
  split
  · rw [upper_of_ascii h.isAsciiWord.isAsciiText, List.map_cons]
  · rw [capitalize_of_ascii (h.isAsciiWord.isAsciiText c List.mem_cons_self)]

/-- Joined words in their forms do not begin with a small letter. -/
theorem head?_flatten_wordForm {words : List (List Char)} (h : ∀ w ∈ words, IsSmallWord w)
    (wanted : List (List Char)) :
    ∀ d ∈ (words.map (wordForm wanted)).flatten.head?, d.isLower = false := by
  intro d hd
  cases words with
  | nil => cases hd
  | cons word rest =>
    have hword := h word List.mem_cons_self
    obtain ⟨c, more, rfl⟩ := List.exists_cons_of_ne_nil hword.1
    rw [List.map_cons, List.flatten_cons, wordForm_cons hword] at hd
    cases hd
    exact Char.isLower_toUpper_eq_false c

/-- Small letters up to a capital are the small letters and digits up to what is no small letter. -/
theorem eq_of_small_append {small right more rest : List Char}
    (hflat : small ++ right = more ++ rest) (hsmall : ∀ d ∈ small, d.isLower = true)
    (hright : ∀ d ∈ right.head?, d.isUpper = true)
    (hmore : ∀ d ∈ more, d.isLower = true ∨ d.isDigit = true)
    (hrest : ∀ d ∈ rest.head?, d.isLower = false) : small = more := by
  rcases List.append_eq_append_iff.mp hflat with ⟨tail, rfl, hright'⟩ | ⟨tail, rfl, hrest'⟩
  · cases tail with
    | nil => rw [List.append_nil]
    | cons d tail =>
      have hupper := hright d (by rw [hright']; rfl)
      rw [not_isUpper_of_small (hmore d (by simp))] at hupper
      cases hupper
  · cases tail with
    | nil => rw [List.append_nil]
    | cons d tail =>
      have hlower := hrest d (by rw [hrest']; rfl)
      rw [hsmall d (by simp)] at hlower
      cases hlower

/-- In the form of a word, a capital and small letters up to a capital, or up to what is no small
letter behind the word, are no acronym. -/
theorem lowered_notMem_of_wordForm {wanted : List (List Char)} {word : List Char}
    (hword : IsSmallWord word) {left inner small right rest : List Char} {c : Char}
    (hform : wordForm wanted word = left ++ c :: inner) (hflat : small ++ right = inner ++ rest)
    (hc : c.isUpper = true) (hne : small ≠ []) (hsmall : ∀ d ∈ small, d.isLower = true)
    (hright : ∀ d ∈ right.head?, d.isUpper = true)
    (hrest : ∀ d ∈ rest.head?, d.isLower = false) : lowered (c :: small) ∉ wanted := by
  obtain ⟨first, more, rfl⟩ := List.exists_cons_of_ne_nil hword.1
  have hlow := hword.lowered_wordForm wanted
  rw [wordForm_cons hword] at hform hlow
  by_cases hacronym : wanted.contains (first :: more) = true
  · -- A raised word has no small letter, and none begins what follows.
    rw [if_pos hacronym, ← List.map_cons] at hform
    obtain ⟨d, small, rfl⟩ := List.exists_cons_of_ne_nil hne
    have hd := hsmall d List.mem_cons_self
    cases inner with
    | nil =>
      have hnone := hrest d (by rw [← List.nil_append rest, ← hflat]; rfl)
      rw [hd] at hnone
      cases hnone
    | cons e inner =>
      cases (List.cons.inj hflat).1
      have hmem : d ∈ (first :: more).map Char.toUpper := by rw [hform]; simp
      obtain ⟨b, _, rfl⟩ := List.mem_map.mp hmem
      rw [Char.isLower_toUpper_eq_false] at hd
      cases hd
  · -- The only capital is the first character, so the small letters are the rest of the word.
    rw [if_neg hacronym] at hform hlow
    have hmore : ∀ d ∈ more, d.isLower = true ∨ d.isDigit = true := fun d hd =>
      hword.2 d (List.mem_cons_of_mem _ hd)
    cases left with
    | nil =>
      obtain ⟨hfirst, rfl⟩ := List.cons.inj hform
      rw [eq_of_small_append hflat hsmall hright hmore hrest, ← hfirst, hlow]
      simpa using hacronym
    | cons l left =>
      have hmem : c ∈ more := by rw [(List.cons.inj hform).2]; simp
      rw [not_isUpper_of_small (hmore c hmem)] at hc
      cases hc

/-- In joined words in their forms, a capital and small letters up to a capital or the end are no
acronym. -/
theorem lowered_notMem_of_flatten_wordForm {wanted words : List (List Char)}
    (h : ∀ w ∈ words, IsSmallWord w) {left small right : List Char} {c : Char}
    (hflat : (words.map (wordForm wanted)).flatten = left ++ (c :: small ++ right))
    (hc : c.isUpper = true) (hne : small ≠ []) (hsmall : ∀ d ∈ small, d.isLower = true)
    (hright : ∀ d ∈ right.head?, d.isUpper = true) : lowered (c :: small) ∉ wanted := by
  induction words generalizing left with
  | nil => simp at hflat
  | cons word rest ih =>
    obtain ⟨hword, hrest⟩ := List.forall_mem_cons.mp h
    rw [List.map_cons, List.flatten_cons, List.append_eq_append_iff] at hflat
    rcases hflat with ⟨left', rfl, hflat⟩ | ⟨inner, hform, hflat⟩
    · exact ih hrest hflat
    cases inner with
    | nil => exact ih hrest (show _ = [] ++ _ from hflat.symm)
    | cons c' inner =>
      obtain ⟨rfl, hbehind⟩ := List.cons.inj hflat
      exact lowered_notMem_of_wordForm hword hform hbehind hc hne hsmall hright
        (head?_flatten_wordForm hrest wanted)

/-- In what a pass leaves, a capital and small letters up to a capital or the end are no acronym. -/
theorem lowered_notMem_of_awareOnce {startsSmall : Bool} {acronyms : List (List Char)}
    {text left small right : List Char} {c : Char} (h : IsAsciiText text)
    (hflat : awareOnce startsSmall acronyms text = left ++ (c :: small ++ right))
    (hc : c.isUpper = true) (hne : small ≠ []) (hsmall : ∀ d ∈ small, d.isLower = true)
    (hright : ∀ d ∈ right.head?, d.isUpper = true) :
    lowered (c :: small) ∉ acronyms.map lower := by
  have hwords : ∀ w ∈ splitWords text, IsSmallWord w := fun w hw =>
    isSmallWord_of_mem_splitWords h hw
  rw [awareOnce_eq] at hflat
  cases startsSmall with
  | false => exact lowered_notMem_of_flatten_wordForm hwords hflat hc hne hsmall hright
  | true =>
    cases hsplit : splitWords text with
    | nil =>
      rw [hsplit] at hflat
      simp [formWords] at hflat
    | cons word rest =>
      rw [hsplit] at hflat hwords
      obtain ⟨hword, hrest⟩ := List.forall_mem_cons.mp hwords
      rw [formWords_true_cons, List.flatten_cons] at hflat
      -- The capital stands behind the first word, which has none.
      rcases List.append_eq_append_iff.mp hflat with ⟨left', _, hflat⟩ | ⟨inner, hfirst, hflat⟩
      · exact lowered_notMem_of_flatten_wordForm hrest hflat hc hne hsmall hright
      cases inner with
      | nil =>
        exact lowered_notMem_of_flatten_wordForm hrest (show _ = [] ++ _ from hflat.symm) hc hne
          hsmall hright
      | cons c' inner =>
        cases (List.cons.inj hflat).1
        rw [not_isUpper_of_small (hword.2 c (by rw [hfirst]; simp))] at hc
        cases hc

section Words

variable {text : List Char} (h : ∀ c ∈ text, c.isAlphanum = true)
  {before after : List (List Char)} {c : Char} {rest : List Char}
  (hsplit : splitFrom [] text = before ++ (c :: rest) :: after)
include h hsplit

/-- Joined text is made of its words. -/
theorem eq_append_of_splitFrom : text = before.flatten ++ (c :: rest ++ after.flatten) := by
  have hflat := flatten_splitFrom_of_isAlphanum h
  rw [hsplit, List.flatten_append, List.flatten_cons] at hflat
  exact hflat.symm

omit h in
/-- A word of joined text starts where it stands, and no other starts within it. -/
theorem startsAt_of_splitFrom (i : Nat) :
    startsAt (splitFrom [] text) (before.flatten.length + i) =
      startsAt ((c :: rest) :: after) i := by
  rw [hsplit]
  refine startsAt_append (fun w hw => ?_) _ i
  exact ne_nil_of_mem_splitFrom (hsplit ▸ List.mem_append_left _ hw)

/-- A word behind another begins with a capital. -/
theorem isUpper_of_splitFrom (hne : before ≠ []) : c.isUpper = true := by
  have hpos : 0 < before.flatten.length := by
    obtain ⟨word, more, rfl⟩ := List.exists_cons_of_ne_nil hne
    have hword : word ≠ [] :=
      ne_nil_of_mem_splitFrom (hsplit ▸ List.mem_append_left _ List.mem_cons_self)
    rw [List.flatten_cons, List.length_append]
    have := List.length_pos_iff.mpr hword
    omega
  obtain ⟨k, hk⟩ := Nat.exists_eq_succ_of_ne_zero (Nat.ne_of_gt hpos)
  have hstart := startsAt_of_splitFrom hsplit 0
  rw [Nat.add_zero, startsAt_zero (by simp), hk, startsAt_splitFrom h] at hstart
  have hcapital := (Bool.and_eq_true_iff.mp hstart).1
  rw [← Nat.succ_eq_add_one, ← hk, eq_append_of_splitFrom h hsplit, capitalAt_append,
    if_neg (Nat.lt_irrefl _), Nat.sub_self] at hcapital
  exact hcapital

/-- What stands behind a word of joined text begins with a capital. -/
theorem isUpper_of_mem_head?_after : ∀ d ∈ after.flatten.head?, d.isUpper = true := by
  intro d hd
  cases after with
  | nil => cases hd
  | cons next after =>
    have hpart : next ∈ splitFrom [] text := by
      rw [hsplit]
      simp
    have hnext := ne_nil_of_mem_splitFrom hpart
    obtain ⟨e, more, rfl⟩ := List.exists_cons_of_ne_nil hnext
    cases hd
    have hbehind : splitFrom [] text = (before ++ [c :: rest]) ++ (d :: more) :: after := by
      rw [hsplit, List.append_assoc, List.singleton_append]
    exact isUpper_of_splitFrom h hbehind (by simp)

/-- Within a word of letters each character has the case of the next, the first one apart. -/
theorem capitalAt_succ_of_splitFrom (hletters : ∀ d ∈ rest, d.isAlpha = true) {j : Nat}
    (hj : j + 1 < rest.length) : capitalAt rest (j + 1) = capitalAt rest j := by
  have hget : ∀ k < rest.length, text[before.flatten.length + k + 1]? = rest[k]? := by
    intro k hk
    rw [eq_append_of_splitFrom h hsplit, Nat.add_assoc,
      List.getElem?_append_right (Nat.le_add_right _ _), Nat.add_sub_cancel_left, List.cons_append,
      List.getElem?_cons_succ, List.getElem?_append_left hk]
  have hcapital : ∀ k < rest.length,
      capitalAt text (before.flatten.length + k + 1) = capitalAt rest k := fun k hk => by
    rw [capitalAt, hget k hk, capitalAt]
  have hinside : ∀ k < rest.length, wordAt text (before.flatten.length + k + 1) = false := by
    intro k hk
    rw [← startsAt_splitFrom h, Nat.add_assoc, startsAt_of_splitFrom hsplit]
    exact startsAt_inside (Nat.succ_pos k) (by simpa using hk) after
  have hsmall : smallAt text (before.flatten.length + (j + 1) + 1) = !capitalAt rest (j + 1) := by
    have hletter : letterAt rest (j + 1) = true := by
      rw [letterAt, List.getElem?_eq_getElem hj]
      exact hletters _ (List.getElem_mem hj)
    rw [smallAt_eq, letterAt, hget (j + 1) hj, ← letterAt, hletter, hcapital (j + 1) hj,
      Bool.true_and]
  have hhere := hinside j (by omega)
  have hnext := hinside (j + 1) hj
  rw [wordAt, hcapital (j + 1) hj] at hnext
  rw [wordAt, hcapital j (by omega)] at hhere
  rw [show before.flatten.length + j + 2 = before.flatten.length + (j + 1) + 1 by omega,
    hsmall] at hhere
  rw [← Nat.add_assoc, hcapital j (by omega)] at hnext
  cases hfirst : capitalAt rest j <;> cases hsecond : capitalAt rest (j + 1) <;>
    simp_all

/-- Behind its first character a word of letters has one case. -/
theorem isUpper_or_isLower_of_splitFrom (hletters : ∀ d ∈ rest, d.isAlpha = true) :
    (∀ d ∈ rest, d.isUpper = true) ∨ ∀ d ∈ rest, d.isLower = true := by
  have hsame : ∀ j < rest.length, capitalAt rest j = capitalAt rest 0 := by
    intro j hj
    induction j with
    | zero => rfl
    | succ j ih => rw [capitalAt_succ_of_splitFrom h hsplit hletters hj, ih (by omega)]
  have hcase : ∀ d ∈ rest, d.isUpper = capitalAt rest 0 := by
    intro d hd
    obtain ⟨j, hj, rfl⟩ := List.getElem_of_mem hd
    rw [← hsame j hj, capitalAt, List.getElem?_eq_getElem hj]
    rfl
  cases hfirst : capitalAt rest 0 with
  | true => exact Or.inl fun d hd => by rw [hcase d hd, hfirst]
  | false =>
    right
    intro d hd
    have halpha := hletters d hd
    rwa [Char.isAlpha, hcase d hd, hfirst, Bool.false_or] at halpha

end Words

/-- A text that does not start small begins with a capital after a pass, if with a letter. -/
theorem capitalAt_awareOnce_zero {startsSmall : Bool} {text : List Char} (h : IsAsciiText text)
    (acronyms : List (List Char)) (hbig : startsSmall = false)
    (hletter : letterAt (awareOnce startsSmall acronyms text) 0 = true) :
    capitalAt (awareOnce startsSmall acronyms text) 0 = true := by
  subst hbig
  have hhead := head?_flatten_wordForm (fun w hw => isSmallWord_of_mem_splitWords h hw)
    (acronyms.map lower)
  rw [← formWords_false, ← awareOnce_eq] at hhead
  cases htext : awareOnce false acronyms text with
  | nil =>
    rw [htext] at hletter
    cases hletter
  | cons c rest =>
    rw [htext] at hletter hhead
    have halpha : c.isAlpha = true := hletter
    rwa [Char.isAlpha, hhead c rfl, Bool.or_false] at halpha

/-- A word with the letters of an acronym without digits has letters only. -/
theorem isAlpha_of_lowered_mem {wanted : List (List Char)}
    (hletters : ∀ w ∈ wanted, ∀ c ∈ w, c.isDigit = false) {word : List Char}
    (hword : ∀ c ∈ word, c.isAlphanum = true) (hmem : lowered word ∈ wanted) :
    ∀ c ∈ word, c.isAlpha = true := by
  intro c hc
  have hnot : c.toLower.isDigit = false := hletters _ hmem _ (List.mem_map_of_mem hc)
  have halnum := hword c hc
  rw [Char.isAlphanum, Bool.or_eq_true] at halnum
  rcases halnum with halpha | hdigit
  · exact halpha
  · rw [toLower_eq_self (not_isUpper_of_isDigit hdigit), hdigit] at hnot
    cases hnot

section Letters

variable {startsSmall : Bool} {acronyms : List (List Char)} {text : List Char}
  (h : IsAsciiText text) (hletters : ∀ w ∈ acronyms.map lower, ∀ c ∈ w, c.isDigit = false)
include h hletters

/-- An acronym among the words that a pass leaves is raised, unless the text starts small with it.
-/
theorem isUpper_of_lowered_mem {before after : List (List Char)} {word : List Char}
    (hsplit : splitFrom [] (awareOnce startsSmall acronyms text) = before ++ word :: after)
    (hmem : lowered word ∈ acronyms.map lower) (hfirst : before = [] → startsSmall = false) :
    ∀ d ∈ word, d.isUpper = true := by
  have halnum := isAlphanum_awareOnce startsSmall acronyms h
  have hpart : word ∈ splitFrom [] (awareOnce startsSmall acronyms text) := by
    rw [hsplit]
    simp
  have hword := isAsciiWord_of_mem_splitFrom (isAsciiText_of_isAlphanum halnum) hpart
  obtain ⟨c, rest, rfl⟩ := List.exists_cons_of_ne_nil hword.1
  have halpha := isAlpha_of_lowered_mem hletters hword.2 hmem
  have htext := eq_append_of_splitFrom halnum hsplit
  have hc : c.isUpper = true := by
    by_cases hbefore : before = []
    · have hzero := capitalAt_awareOnce_zero h acronyms (hfirst hbefore)
      rw [htext, hbefore] at hzero
      exact hzero (halpha c List.mem_cons_self)
    · exact isUpper_of_splitFrom halnum hsplit hbefore
  rcases isUpper_or_isLower_of_splitFrom halnum hsplit
    (fun d hd => halpha d (List.mem_cons_of_mem _ hd)) with hupper | hlower
  · exact List.forall_mem_cons.mpr ⟨hc, hupper⟩
  · by_cases hne : rest = []
    · rw [hne]
      simpa using hc
    · exact absurd hmem (lowered_notMem_of_awareOnce h htext hc hne hlower
        (isUpper_of_mem_head?_after halnum hsplit))

/-- A pass raises nothing that the pass before has not raised. -/
theorem capitalAt_of_acronymOver {i : Nat} (hi : i < (awareOnce startsSmall acronyms text).length)
    (hover : acronymOver startsSmall acronyms (awareOnce startsSmall acronyms text) i = true) :
    capitalAt (awareOnce startsSmall acronyms text) i = true := by
  have halnum := isAlphanum_awareOnce startsSmall acronyms h
  have hlength := length_lower_of_mem_splitFrom halnum
  have hflat := flatten_splitFrom_of_isAlphanum halnum
  have hplace : i < (splitFrom [] (awareOnce startsSmall acronyms text)).flatten.length := by
    rwa [hflat]
  obtain ⟨before, after, hsplit, hle, hlt⟩ := exists_wordOver hplace
  rw [acronymOver, raisedAt, Bool.and_eq_true, splitWords, wordOver_map hlength hplace] at hover
  obtain ⟨hmem, hlater⟩ := hover
  generalize wordOver (splitFrom [] (awareOnce startsSmall acronyms text)) i = word
    at hsplit hle hlt hmem
  have hpart : word ∈ splitFrom [] (awareOnce startsSmall acronyms text) := by
    rw [hsplit]
    simp
  have hword := isAsciiWord_of_mem_splitFrom (isAsciiText_of_isAlphanum halnum) hpart
  rw [hword.lower_eq, List.contains_iff_mem] at hmem
  have hfirst : before = [] → startsSmall = false := by
    rintro rfl
    rw [hsplit, List.nil_append, List.map_cons, inFirst, hlength word hpart] at hlater
    simp only [List.flatten_nil, List.length_nil, Nat.zero_add] at hlt
    rw [decide_eq_true hlt, Bool.and_true] at hlater
    simpa using hlater
  have hupper := isUpper_of_lowered_mem h hletters hsplit hmem hfirst
  obtain ⟨k, rfl⟩ := Nat.exists_eq_add_of_le hle
  have hk : k < word.length := by omega
  rw [← hflat, hsplit, List.flatten_append, List.flatten_cons, capitalAt_append,
    if_neg (by omega), Nat.add_sub_cancel_left, capitalAt_append, if_pos hk, capitalAt,
    List.getElem?_eq_getElem hk]
  exact hupper _ (List.getElem_mem hk)

/-- A pass over what a pass leaves adds no capitals. -/
theorem capitalAt_of_awareOnce {i : Nat}
    (hi : capitalAt (awareOnce startsSmall acronyms (awareOnce startsSmall acronyms text)) i =
      true) : capitalAt (awareOnce startsSmall acronyms text) i = true := by
  have halnum := isAlphanum_awareOnce startsSmall acronyms h
  rw [capitalAt_awareOnce halnum, Bool.or_eq_true, Bool.and_eq_true, Bool.and_eq_true] at hi
  rcases hi with ⟨hword, hfirst⟩ | ⟨hletter, hover⟩
  · cases i with
    | zero => exact capitalAt_awareOnce_zero h acronyms (by simpa using hfirst) hword
    | succ i => exact (Bool.and_eq_true_iff.mp hword).1
  · refine capitalAt_of_acronymOver h hletters ?_ hover
    by_contra hlong
    rw [letterAt, List.getElem?_eq_none (by omega)] at hletter
    cases hletter

/-- From the first pass on words start at the same places. -/
theorem wordAt_awareOnce_awareOnce (i : Nat) :
    wordAt (awareOnce startsSmall acronyms (awareOnce startsSmall acronyms text)) (i + 1) =
      wordAt (awareOnce startsSmall acronyms text) (i + 1) := by
  have halnum := isAlphanum_awareOnce startsSmall acronyms h
  have hlow := lowered_awareOnce_of_isAlphanum halnum startsSmall acronyms
  have hkept : ∀ k, capitalAt (awareOnce startsSmall acronyms text) k = false →
      capitalAt (awareOnce startsSmall acronyms (awareOnce startsSmall acronyms text)) k =
        false := by
    intro k hk
    rw [Bool.eq_false_iff] at hk ⊢
    exact fun hcapital => hk (capitalAt_of_awareOnce h hletters hcapital)
  rw [Bool.eq_iff_iff]
  cases hletter : letterAt (awareOnce startsSmall acronyms text) i with
  | true =>
    refine ⟨wordAt_of_wordAt_awareOnce halnum hletter, fun hword => ?_⟩
    refine Bool.and_eq_true_iff.mpr ⟨capitalAt_awareOnce_of_wordAt halnum hword, ?_⟩
    rw [wordAt, Bool.and_eq_true, Bool.or_eq_true] at hword
    refine Bool.or_eq_true_iff.mpr (hword.2.imp (fun hbehind => ?_) fun hahead => ?_)
    · rw [Bool.not_eq_true'] at hbehind ⊢
      exact hkept i hbehind
    · rw [smallAt_eq, Bool.and_eq_true, Bool.not_eq_true'] at hahead ⊢
      exact ⟨(letterAt_congr hlow _).trans hahead.1, hkept _ hahead.2⟩
  | false =>
    refine ⟨fun hword => ?_, wordAt_awareOnce_of_wordAt halnum hletter⟩
    have hbehind : capitalAt (awareOnce startsSmall acronyms text) i = false := by
      rw [Bool.eq_false_iff]
      intro hcapital
      rw [letterAt_of_capitalAt hcapital] at hletter
      cases hletter
    rw [wordAt, capitalAt_of_awareOnce h hletters (Bool.and_eq_true_iff.mp hword).1, hbehind]
    rfl

/-- A pass over what a pass leaves changes the words no more. -/
theorem awareOnce_stable (startsSmall : Bool) :
    awareOnce startsSmall acronyms
        (awareOnce startsSmall acronyms (awareOnce startsSmall acronyms text)) =
      awareOnce startsSmall acronyms (awareOnce startsSmall acronyms text) := by
  have halnum := isAlphanum_awareOnce startsSmall acronyms h
  have hnext := isAlphanum_awareOnce startsSmall acronyms (isAsciiText_of_isAlphanum halnum)
  exact awareOnce_congr (splitWords_congr hnext halnum
    (lowered_awareOnce_of_isAlphanum halnum startsSmall acronyms)
    (wordAt_awareOnce_awareOnce h hletters)) startsSmall acronyms

end Letters

/-- Acronyms without digits have none when they are lowered. -/
theorem isDigit_of_mem_lower {acronyms : List (List Char)}
    (h : ∀ a ∈ acronyms, IsAsciiText a ∧ ∀ c ∈ a, c.isDigit = false) :
    ∀ w ∈ acronyms.map lower, ∀ c ∈ w, c.isDigit = false := by
  intro w hw c hc
  obtain ⟨a, ha, rfl⟩ := List.mem_map.mp hw
  obtain ⟨hascii, hnone⟩ := h a ha
  rw [lower_of_ascii hascii] at hc
  obtain ⟨d, hd, rfl⟩ := List.mem_map.mp hc
  rw [Bool.eq_false_iff]
  intro hdigit
  have hupper : d.isUpper = false := by
    have halpha := Char.isAlpha_toLower_eq_isAlpha d
    rw [Char.isAlpha, not_isUpper_of_isDigit hdigit, not_isLower_of_isDigit hdigit, Char.isAlpha,
      Bool.or_false, eq_comm, Bool.or_eq_false_iff] at halpha
    exact halpha.1
  rw [toLower_eq_self hupper, hnone d hd] at hdigit
  cases hdigit

/-- Conversion to a joined style with acronyms that are whole words is idempotent on a text exactly
if the words of the result have their forms. That is so for every text if no acronym has a digit. -/
theorem convert_convert_wordAware_iff {style : Style} (hstyle : style = .camel ∨ style = .pascal)
    (acronyms : List (List Char)) {text : List Char} (h : IsAsciiText text) :
    (convert style ⟨acronyms, true⟩ (convert style ⟨acronyms, true⟩ text) =
        convert style ⟨acronyms, true⟩ text ↔
      formWords (style == .camel) (acronyms.map lower)
          (splitWords (convert style ⟨acronyms, true⟩ text)) =
        splitFrom [] (convert style ⟨acronyms, true⟩ text)) ∧
    ((∀ a ∈ acronyms, IsAsciiText a ∧ ∀ c ∈ a, c.isDigit = false) →
      convert style ⟨acronyms, true⟩ (convert style ⟨acronyms, true⟩ text) =
        convert style ⟨acronyms, true⟩ text) := by
  have hconvert : ∀ t, convert style ⟨acronyms, true⟩ t =
      joinTwice (style == .camel) ⟨acronyms, true⟩ t := by
    rcases hstyle with rfl | rfl <;> exact fun _ => rfl
  generalize (style == .camel) = startsSmall at hconvert ⊢
  have hnext := isAlphanum_awareOnce startsSmall acronyms h
  have hlast := isAlphanum_awareOnce startsSmall acronyms (isAsciiText_of_isAlphanum hnext)
  rw [hconvert, hconvert, joinTwice_wordAware startsSmall acronyms h,
    joinTwice_wordAware startsSmall acronyms (isAsciiText_of_isAlphanum hlast)]
  constructor
  · rw [← awareOnce_eq_self_iff hlast]
    refine ⟨awareOnce_eq_self_of_period hlast, fun hself => ?_⟩
    rw [hself, hself]
  · intro hacronyms
    have hstable := awareOnce_stable h (isDigit_of_mem_lower hacronyms) startsSmall
    rw [hstable, hstable]

/-- The digit of `x_mp_3` completes the acronym `MP3` after the first pass. The result is `XMP3`,
which is one word, so it is converted to `Xmp3`. With acronyms of letters the result stays. -/
theorem not_convert_convert_completed_acronym :
    IsAsciiText "x_mp_3".toList ∧
      convert .pascal ⟨["MP3".toList], true⟩
          (convert .pascal ⟨["MP3".toList], true⟩ "x_mp_3".toList) ≠
        convert .pascal ⟨["MP3".toList], true⟩ "x_mp_3".toList ∧
      convert .camel ⟨["MP".toList, "x".toList], true⟩
          (convert .camel ⟨["MP".toList, "x".toList], true⟩ "x_mp_3".toList) =
        convert .camel ⟨["MP".toList, "x".toList], true⟩ "x_mp_3".toList := by
  have hascii : IsAsciiText "x_mp_3".toList := by decide
  have hresult : convert .pascal ⟨["MP3".toList], true⟩ "x_mp_3".toList = "XMP3".toList := by cbv
  have hletters : ∀ a ∈ ["MP".toList, "x".toList],
      IsAsciiText a ∧ ∀ c ∈ a, c.isDigit = false := by
    simp [IsAsciiText, isAscii]
  refine ⟨hascii, mt (convert_convert_wordAware_iff (.inr rfl) _ hascii).1.mp ?_,
    (convert_convert_wordAware_iff (.inl rfl) _ hascii).2 hletters⟩
  rw [hresult]
  decide

end LabelTally.Label
