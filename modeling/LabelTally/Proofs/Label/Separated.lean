import LabelTally.Label.Style
import LabelTally.Proofs.Label.Words

/-!
# Separated styles

The four separated styles differ in their mark and in the form of their words. A text joined from
words is unchanged by such a style exactly if every word is whole and has its form already: if
splitting cut a word, more words would be joined than before.
-/

namespace LabelTally.Label

open Text

/-- A word in ASCII. -/
def IsAsciiWord (word : List Char) : Prop := word ≠ [] ∧ ∀ c ∈ word, c.isAlphanum = true

/-- A word in ASCII is ASCII text. -/
theorem IsAsciiWord.isAsciiText {word : List Char} (h : IsAsciiWord word) : IsAsciiText word :=
  fun c hc => (isAlphanumeric_of_isAlphanum (h.2 c hc)).1

/-- No mark stands in a word. -/
theorem IsAsciiWord.not_mem {word : List Char} (h : IsAsciiWord word) {mark : Char}
    (hmark : IsMark mark) : mark ∉ word := fun hmem => by
  have halnum := (isAlphanumeric_of_isAlphanum (h.2 mark hmem)).2
  rw [hmark.1] at halnum
  cases halnum

/-- Mapping letters to letters keeps a word. -/
theorem IsAsciiWord.map {word : List Char} (h : IsAsciiWord word) {f : Char → Char}
    (hf : ∀ c, (f c).isAlphanum = c.isAlphanum) : IsAsciiWord (word.map f) := by
  refine ⟨by simpa using h.1, fun c hc => ?_⟩
  obtain ⟨d, hd, rfl⟩ := List.mem_map.mp hc
  rw [hf, h.2 d hd]

/-- The words of ASCII text are words in ASCII. -/
theorem isAsciiWord_of_mem_splitFrom {text word : List Char} (ht : IsAsciiText text)
    (h : word ∈ splitFrom [] text) : IsAsciiWord word := by
  refine ⟨ne_nil_of_mem_splitFrom h, fun c hc => ?_⟩
  obtain ⟨hmem, halnum⟩ := mem_of_mem_splitFrom h hc
  rwa [isAlphanumeric_of_ascii (ht c hmem)] at halnum

/-- A word in ASCII has all its characters in its words. -/
theorem IsAsciiWord.flatten_splitFrom {word : List Char} (h : IsAsciiWord word) :
    (splitFrom [] word).flatten = word := by
  rw [Label.flatten_splitFrom, List.reverse_nil, List.nil_append, List.filter_eq_self]
  exact fun c hc => (isAlphanumeric_of_isAlphanum (h.2 c hc)).2

/-- Splitting undoes joining as far as the words are whole. -/
theorem splitFrom_joinWith {mark : Char} (hmark : IsMark mark) (words : List (List Char)) :
    splitFrom [] (joinWith mark words) = words.flatMap (splitFrom []) := by
  induction words with
  | nil => rfl
  | cons word rest ih =>
    cases rest with
    | nil => simp [joinWith]
    | cons next rest =>
      have hjoin : joinWith mark (word :: next :: rest) =
          word ++ mark :: joinWith mark (next :: rest) := by simp [joinWith]
      rw [hjoin, splitFrom_append_mark hmark, ih]
      rfl

/-- The words of joined words are the words of each. -/
theorem splitWords_joinWith {mark : Char} (hmark : IsMark mark) (words : List (List Char)) :
    splitWords (joinWith mark words) = words.flatMap splitWords := by
  rw [splitWords, splitFrom_joinWith hmark, List.map_flatMap]
  rfl

/-- A text that can be joined with a mark: it is not empty and does not hold the mark. -/
def IsJoinable (mark : Char) (word : List Char) : Prop := word ≠ [] ∧ mark ∉ word

/-- A word in ASCII can be joined with any mark. -/
theorem IsAsciiWord.isJoinable {word : List Char} (h : IsAsciiWord word) {mark : Char}
    (hmark : IsMark mark) : IsJoinable mark word :=
  ⟨h.1, h.not_mem hmark⟩

/-- Words are known from the text that they are joined to. -/
theorem joinWith_injective {mark : Char} {words others : List (List Char)}
    (hwords : ∀ w ∈ words, IsJoinable mark w) (hothers : ∀ w ∈ others, IsJoinable mark w)
    (h : joinWith mark words = joinWith mark others) : words = others := by
  have hempty : ∀ ws : List (List Char), (∀ w ∈ ws, IsJoinable mark w) → joinWith mark ws = [] →
      ws = [] := by
    intro ws hws hjoin
    cases ws with
    | nil => rfl
    | cons w ws =>
      have hw := (hws w List.mem_cons_self).1
      cases ws <;> simp [joinWith, hw] at hjoin
  have hsplit : ∀ ws : List (List Char), (∀ w ∈ ws, IsJoinable mark w) → ws ≠ [] →
      List.splitOn mark (joinWith mark ws) = ws := fun ws hws hne =>
    List.splitOn_intercalate mark (fun w hw => (hws w hw).2) hne
  by_cases hw : words = []
  · subst hw
    exact (hempty others hothers h.symm).symm
  · by_cases ho : others = []
    · subst ho
      exact hempty words hwords h
    · rw [← hsplit words hwords hw, h, hsplit others hothers ho]

/-- If every part is cut into something, there are no fewer pieces than parts. -/
theorem length_le_length_flatMap {f : List Char → List (List Char)} {parts : List (List Char)}
    (hne : ∀ p ∈ parts, f p ≠ []) : parts.length ≤ (parts.flatMap f).length := by
  induction parts with
  | nil => simp
  | cons p parts ih =>
    obtain ⟨hp, hparts⟩ := List.forall_mem_cons.mp hne
    have hpos := List.length_pos_iff.mpr hp
    have hle := ih hparts
    rw [List.flatMap_cons, List.length_append, List.length_cons]
    omega

/-- If every part is cut into something and the pieces are the parts, no part is cut. -/
theorem eq_singleton_of_flatMap_eq {f : List Char → List (List Char)} {parts : List (List Char)}
    (hne : ∀ p ∈ parts, f p ≠ []) (h : parts.flatMap f = parts) : ∀ p ∈ parts, f p = [p] := by
  induction parts with
  | nil => simp
  | cons p parts ih =>
    obtain ⟨hp, hparts⟩ := List.forall_mem_cons.mp hne
    rw [List.flatMap_cons] at h
    -- A second piece of the first part would leave too few for the others.
    have hle := length_le_length_flatMap hparts
    have hlength := congrArg List.length h
    rw [List.length_append, List.length_cons] at hlength
    obtain ⟨x, xs, hx⟩ := List.exists_cons_of_ne_nil hp
    have hnil : xs = [] := by
      rw [hx, List.length_cons] at hlength
      exact List.length_eq_zero_iff.mp (by omega)
    rw [hx, hnil, List.singleton_append] at h
    obtain ⟨rfl, hrest⟩ := List.cons.inj h
    exact List.forall_mem_cons.mpr ⟨by rw [hx, hnil], ih hparts hrest⟩

/-- Words that are cut again are joined to the same text exactly if none of them is cut or
changed. -/
theorem joinWith_flatMap_iff {mark : Char} {words : List (List Char)}
    {f : List Char → List (List Char)} (hwords : ∀ w ∈ words, IsJoinable mark w)
    (hf : ∀ w ∈ words, f w ≠ [] ∧ ∀ x ∈ f w, IsJoinable mark x) :
    joinWith mark (words.flatMap f) = joinWith mark words ↔ ∀ w ∈ words, f w = [w] := by
  constructor
  · intro h
    refine eq_singleton_of_flatMap_eq (fun w hw => (hf w hw).1) (joinWith_injective ?_ hwords h)
    intro x hx
    obtain ⟨w, hw, hx⟩ := List.mem_flatMap.mp hx
    exact (hf w hw).2 x hx
  · intro h
    rw [List.flatMap_congr h, List.flatMap_singleton']

/-- The conversion to a separated style with a mark and a form of words. -/
def separate (mark : Char) (form : List Char → List Char) (text : List Char) : List Char :=
  joinWith mark ((splitWords text).map form)

/-- Words that keep their lowered form are joined as they are. -/
theorem separate_id (mark : Char) (text : List Char) :
    separate mark id text = joinWith mark (splitWords text) := by
  rw [separate, List.map_id]

/-- The form of a lowered word is a word again. -/
def KeepsWords (form : List Char → List Char) : Prop :=
  ∀ word, IsAsciiWord word → IsAsciiWord (form (lower word))

/-- The word is left as it is by a separated style. -/
def IsFixed (form : List Char → List Char) (word : List Char) : Prop :=
  IsWhole word ∧ form (lower word) = word

/-- The pieces of a word, in their form, are the word alone exactly if it is fixed. -/
theorem map_splitWords_eq_iff {form : List Char → List Char} {word : List Char}
    (h : IsAsciiWord word) : (splitWords word).map form = [word] ↔ IsFixed form word := by
  rw [splitWords, List.map_map]
  constructor
  · intro heq
    obtain ⟨part, hpart, hform⟩ := List.map_eq_singleton_iff.mp heq
    -- The only piece has all characters of the word.
    have hflat := h.flatten_splitFrom
    rw [hpart, List.flatten_singleton] at hflat
    subst hflat
    exact ⟨hpart, hform⟩
  · rintro ⟨hwhole, hform⟩
    rw [hwhole, List.map_singleton, Function.comp_apply, hform]

/-- The words of a text in a form that keeps words are words. -/
theorem isAsciiWord_of_mem_map_form {form : List Char → List Char} (hform : KeepsWords form)
    {text : List Char} (ht : IsAsciiText text) :
    ∀ w ∈ (splitWords text).map form, IsAsciiWord w := by
  intro w hw
  obtain ⟨low, hlow, rfl⟩ := List.mem_map.mp hw
  obtain ⟨raw, hraw, rfl⟩ := List.mem_map.mp hlow
  exact hform raw (isAsciiWord_of_mem_splitFrom ht hraw)

/-- Joined words are left as they are exactly if each of them is. -/
theorem separate_joinWith_iff {mark : Char} (hmark : IsMark mark) {form : List Char → List Char}
    (hform : KeepsWords form) {words : List (List Char)} (hwords : ∀ w ∈ words, IsAsciiWord w) :
    separate mark form (joinWith mark words) = joinWith mark words ↔
      ∀ w ∈ words, IsFixed form w := by
  rw [separate, splitWords_joinWith hmark, List.map_flatMap]
  refine (joinWith_flatMap_iff (fun w hw => (hwords w hw).isJoinable hmark) fun w hw => ?_).trans
    (forall₂_congr fun w hw => map_splitWords_eq_iff (hwords w hw))
  refine ⟨fun hnil => ?_, fun x hx => ?_⟩
  · have hflat := (hwords w hw).flatten_splitFrom
    rw [splitWords, List.map_map, List.map_eq_nil_iff] at hnil
    rw [hnil] at hflat
    exact (hwords w hw).1 hflat.symm
  · exact (isAsciiWord_of_mem_map_form hform (hwords w hw).isAsciiText x hx).isJoinable hmark

/-- A text is left as it is exactly if it is joined from words that are. -/
theorem separate_eq_self_iff {mark : Char} (hmark : IsMark mark) {form : List Char → List Char}
    (hform : KeepsWords form) {text : List Char} (ht : IsAsciiText text) :
    separate mark form text = text ↔
      ∃ words, (∀ w ∈ words, IsAsciiWord w ∧ IsFixed form w) ∧ text = joinWith mark words := by
  constructor
  · intro h
    have hwords := isAsciiWord_of_mem_map_form hform ht
    have htext : text = joinWith mark ((splitWords text).map form) := h.symm
    refine ⟨_, fun w hw => ⟨hwords w hw, ?_⟩, htext⟩
    have hjoined : separate mark form (joinWith mark ((splitWords text).map form)) =
        joinWith mark ((splitWords text).map form) := by rw [← htext, h]
    exact (separate_joinWith_iff hmark hform hwords).mp hjoined w hw
  · rintro ⟨words, hwords, rfl⟩
    exact (separate_joinWith_iff hmark hform fun w hw => (hwords w hw).1).mpr fun w hw =>
      (hwords w hw).2

end LabelTally.Label
