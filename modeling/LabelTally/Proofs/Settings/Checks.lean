import LabelTally.Settings.Load
import Mathlib

/-!
# What the checks of settings accept

Checked settings are said field by field in terms of the values they were given as. Written back as
values they pass the checks again and come out the same. Only one thing is refused in a way that is
not a bad value: a pattern with a number of rounds beyond all bounds.
-/

namespace LabelTally

open Check (LabelPattern)
open Label (Style)

section Steps

variable {ε α β : Type} {x : Except ε α} {f : α → Except ε β}

/-- Two steps give a result if the first gives one with which the second does. -/
theorem bind_eq_ok_iff {b : β} : x >>= f = .ok b ↔ ∃ a, x = .ok a ∧ f a = .ok b := by
  cases x with
  | error e => simp [bind, Except.bind]
  | ok a => simp [bind, Except.bind]

/-- Two steps fail where the first does, or where the second does with what the first gives. -/
theorem bind_eq_error_iff {e : ε} :
    x >>= f = .error e ↔ x = .error e ∨ ∃ a, x = .ok a ∧ f a = .error e := by
  cases x with
  | error e => simp [bind, Except.bind]
  | ok a => simp [bind, Except.bind]

end Steps

/-! ## Reading single values -/

theorem readText?_eq_ok_iff {key : SettingKey} {v : Value} {o : Option String} :
    readText? key v = .ok o ↔ v = o.elim .null .text := by
  cases v <;> cases o <;> simp [readText?, eq_comm]

theorem readBool_eq_ok_iff {key : SettingKey} {v : Value} {b : Bool} :
    readBool key v = .ok b ↔ v = .bool b := by
  cases v <;> simp [readBool]

theorem readStyle_eq_ok_iff {name : String} {style : Style} :
    readStyle name = .ok style ↔ Style.ofName? name = some style := by
  cases h : Style.ofName? name <;> simp [readStyle, h]

theorem readPattern_eq_ok_iff {source : String} {p : LabelPattern} :
    readPattern source = .ok p ↔
      ∃ pattern, Pattern.parse source = .ok pattern ∧ p = ⟨source, pattern⟩ := by
  cases h : Pattern.parse source with
  | ok pattern => simp [readPattern, h, eq_comm]
  | error fault =>
    simp only [readPattern, h]
    split <;> simp

theorem readDefaultCount_eq_ok_iff {v : Value} {n : Int} :
    readDefaultCount v = .ok n ↔ v = .int n ∧ 1 ≤ n ∧ n ≤ Comment.maxCount := by
  cases v with
  | int m =>
    rw [readDefaultCount]
    split
    · grind
    · grind
  | _ => simp [readDefaultCount]

theorem textItems?_eq_some_iff {items : List Value} {texts : List String} :
    textItems? items = some texts ↔ items = texts.map .text := by
  induction items generalizing texts with
  | nil => cases texts <;> simp [textItems?]
  | cons v rest ih =>
    cases v <;> cases texts <;> simp [textItems?, ih, and_comm]

theorem readTexts_eq_ok_iff {key : SettingKey} {v : Value} {texts : List String} :
    readTexts key v = .ok texts ↔ v = .list (texts.map .text) := by
  cases v with
  | list items =>
    rw [Value.list.injEq, ← textItems?_eq_some_iff, readTexts]
    cases textItems? items <;> simp
  | _ => simp [readTexts]

/-- What may be absent is read from the absent value or from a text. -/
theorem exists_readOptional_iff {α : Type} {key : SettingKey} {v : Value}
    (read : String → Except SettingFault α) {x : Option α} :
    (∃ o, readText? key v = .ok o ∧ readOptional read o = .ok x) ↔
      v = .null ∧ x = none ∨ ∃ s a, v = .text s ∧ read s = .ok a ∧ x = some a := by
  constructor
  · rintro ⟨o, hv, hx⟩
    cases o with
    | none =>
      cases hx
      exact .inl ⟨readText?_eq_ok_iff.mp hv, rfl⟩
    | some s =>
      refine .inr ⟨s, ?_⟩
      cases hread : read s with
      | error e => simp [readOptional, hread, Except.map] at hx
      | ok a =>
        rw [readOptional, hread] at hx
        cases hx
        exact ⟨a, readText?_eq_ok_iff.mp hv, rfl, rfl⟩
  · rintro (⟨rfl, rfl⟩ | ⟨s, a, rfl, hread, rfl⟩)
    · exact ⟨none, rfl, rfl⟩
    · exact ⟨some s, rfl, by rw [readOptional, hread]; rfl⟩

/-! ## The checks as a whole -/

/-- Checked settings are what values say, field by field. -/
structure RawSettings.Gives (r : RawSettings) (s : Settings) : Prop where
  /-- The directory is taken as it is. -/
  root : s.root = r .root
  /-- The file is taken as it is. -/
  source : s.source = r .source
  /-- The style is absent, or is the one that a text names. -/
  style : r .caseStyle = .null ∧ s.style = none ∨
    ∃ name style, r .caseStyle = .text name ∧ Style.ofName? name = some style ∧
      s.style = some style
  /-- The pattern is absent, or is the one that a text writes. -/
  labelPattern : r .labelPattern = .null ∧ s.labelPattern = none ∨
    ∃ source pattern, r .labelPattern = .text source ∧ Pattern.parse source = .ok pattern ∧
      s.labelPattern = some ⟨source, pattern⟩
  wordAware : r .wordAwareAcronyms = .bool s.wordAware
  strictBlanks : r .strictWhitespace = .bool s.strictBlanks
  heedRuleFiles : r .respectGitignore = .bool s.heedRuleFiles
  /-- The count is an integer between its bounds. -/
  defaultCount : r .defaultCount = .int s.defaultCount ∧ 1 ≤ s.defaultCount ∧
    s.defaultCount ≤ Comment.maxCount
  acronyms : r .acronyms = .list (s.acronyms.map .text)
  exclude : r .exclude = .list (s.exclude.map .text)

/-- The checks accept values exactly if settings are what they say. -/
theorem RawSettings.check_eq_ok_iff {r : RawSettings} {s : Settings} :
    r.check = .ok s ↔ r.Gives s := by
  simp only [RawSettings.check, bind_eq_ok_iff, readBool_eq_ok_iff, readDefaultCount_eq_ok_iff,
    readTexts_eq_ok_iff]
  constructor
  · rintro ⟨name?, hname, text?, htext, wordAware, hword, strictBlanks, hstrict, heed, hheed,
      style, hstyle, pattern, hpattern, count, hcount, acronyms, hacronyms, exclude, hexclude, h⟩
    cases h
    refine ⟨rfl, rfl, ?_, ?_, hword, hstrict, hheed, hcount, hacronyms, hexclude⟩
    · simpa only [readStyle_eq_ok_iff] using
        (exists_readOptional_iff readStyle).mp ⟨name?, hname, hstyle⟩
    · obtain habsent | ⟨source, p, hsource, hread, hp⟩ :=
        (exists_readOptional_iff readPattern).mp ⟨text?, htext, hpattern⟩
      · exact .inl habsent
      · obtain ⟨q, hparse, rfl⟩ := readPattern_eq_ok_iff.mp hread
        exact .inr ⟨source, q, hsource, hparse, hp⟩
  · rintro ⟨hroot, hsource, hstyle, hpattern, hword, hstrict, hheed, hcount, hacronyms, hexclude⟩
    -- The texts are taken out of their values before the flags are looked at, and read after.
    obtain ⟨name?, hname, hstyle⟩ := (exists_readOptional_iff readStyle).mpr
      (hstyle.imp_right fun ⟨name, style, htext, hof, hs⟩ =>
        ⟨name, style, htext, readStyle_eq_ok_iff.mpr hof, hs⟩)
    obtain ⟨text?, htext, hpattern⟩ := (exists_readOptional_iff readPattern).mpr
      (hpattern.imp_right fun ⟨source, pattern, htext, hparse, hs⟩ =>
        ⟨source, _, htext, readPattern_eq_ok_iff.mpr ⟨pattern, hparse, rfl⟩, hs⟩)
    refine ⟨name?, hname, text?, htext, _, hword, _, hstrict, _, hheed, _, hstyle, _, hpattern, _,
      hcount, _, hacronyms, _, hexclude, ?_⟩
    rw [← hroot, ← hsource]
    rfl

theorem ofName?_name (style : Style) : Style.ofName? style.name = some style := by
  cases style <;> rfl

/-- Settings that values say are what they say themselves when they are written back. -/
theorem RawSettings.Gives.raw {r : RawSettings} {s : Settings} (h : r.Gives s) : s.raw.Gives s where
  root := rfl
  source := rfl
  style := by
    cases hs : s.style with
    | none => exact .inl ⟨by rw [Settings.raw, hs], rfl⟩
    | some style =>
      exact .inr ⟨style.name, style, by rw [Settings.raw, hs], ofName?_name style, rfl⟩
  labelPattern := by
    obtain ⟨-, hs⟩ | ⟨source, pattern, -, hparse, hs⟩ := h.labelPattern
    · exact .inl ⟨by rw [Settings.raw, hs], hs⟩
    · exact .inr ⟨source, pattern, by rw [Settings.raw, hs], hparse, hs⟩
  wordAware := rfl
  strictBlanks := rfl
  heedRuleFiles := rfl
  defaultCount := ⟨rfl, h.defaultCount.2⟩
  acronyms := rfl
  exclude := rfl

/-- Settings that the checks give pass them again, and come out the same. -/
theorem RawSettings.check_raw {r : RawSettings} {s : Settings} (h : r.check = .ok s) :
    s.raw.check = .ok s :=
  check_eq_ok_iff.mpr (check_eq_ok_iff.mp h).raw

/-! ## What the checks refuse -/

/-- The fault is one of a value, as opposed to a name that no field has and a pattern with a number
beyond all bounds. -/
def SettingFault.IsBadValue : SettingFault → Prop
  | .unknownName _ => False
  | .unusablePattern fault => fault.problem.kind = .badValue
  | _ => True

theorem isBadValue_of_readText? {key : SettingKey} {v : Value} {e : SettingFault}
    (h : readText? key v = .error e) : e.IsBadValue := by
  cases v <;> cases h <;> trivial

theorem isBadValue_of_readBool {key : SettingKey} {v : Value} {e : SettingFault}
    (h : readBool key v = .error e) : e.IsBadValue := by
  cases v <;> cases h <;> trivial

theorem isBadValue_of_readStyle {name? : Option String} {e : SettingFault}
    (h : readOptional readStyle name? = .error e) : e.IsBadValue := by
  cases name? with
  | none => cases h
  | some name =>
    rw [readOptional, readStyle] at h
    cases hof : Style.ofName? name with
    | some style =>
      rw [hof] at h
      cases h
    | none =>
      rw [hof] at h
      cases h
      trivial

theorem isBadValue_of_readDefaultCount {v : Value} {e : SettingFault}
    (h : readDefaultCount v = .error e) : e.IsBadValue := by
  cases v with
  | int n =>
    rw [readDefaultCount] at h
    split at h <;> cases h
    trivial
  | _ => cases h; trivial

theorem isBadValue_of_readTexts {key : SettingKey} {v : Value} {e : SettingFault}
    (h : readTexts key v = .error e) : e.IsBadValue := by
  cases v with
  | list items =>
    rw [readTexts] at h
    split at h <;> cases h
    trivial
  | _ => cases h; trivial

theorem readPattern_eq_error_cases {text? : Option String} {e : SettingFault}
    (h : readOptional readPattern text? = .error e) :
    e.IsBadValue ∨ ∃ source fault, text? = some source ∧ Pattern.parse source = .error fault ∧
      fault.problem.kind = .tooLarge ∧ e = .unusablePattern fault := by
  cases text? with
  | none => cases h
  | some source =>
    cases hparse : Pattern.parse source with
    | ok p =>
      rw [readOptional, readPattern, hparse] at h
      cases h
    | error fault =>
      rw [readOptional, readPattern, hparse] at h
      cases hkind : fault.problem.kind with
      | malformed =>
        simp only [hkind] at h
        cases h
        exact .inl trivial
      | badValue =>
        simp only [hkind] at h
        cases h
        exact .inl hkind
      | tooLarge =>
        simp only [hkind] at h
        cases h
        exact .inr ⟨source, fault, rfl, hparse, hkind, rfl⟩

/-- Values with a pattern that has a number beyond all bounds, where all that is checked before it
is in order. -/
structure RawSettings.Overtaxes (r : RawSettings) (fault : Pattern.Fault) : Prop where
  /-- The style is absent or there is one of the name. -/
  style : r .caseStyle = .null ∨
    ∃ name style, r .caseStyle = .text name ∧ Style.ofName? name = some style
  /-- The truth values are truth values. -/
  flags : ∀ key ∈ [SettingKey.wordAwareAcronyms, .strictWhitespace, .respectGitignore],
    ∃ b, r key = .bool b
  /-- The pattern is a text that is refused. -/
  pattern : ∃ source, r .labelPattern = .text source ∧ Pattern.parse source = .error fault
  /-- It is refused for the number. -/
  kind : fault.problem.kind = .tooLarge

/-- The checks refuse a bad value or an overtaxing pattern, and nothing else. -/
theorem RawSettings.check_eq_error_cases {r : RawSettings} {e : SettingFault}
    (h : r.check = .error e) :
    e.IsBadValue ∨ ∃ fault, e = .unusablePattern fault ∧ r.Overtaxes fault := by
  simp only [RawSettings.check, bind_eq_error_iff, readBool_eq_ok_iff] at h
  -- One case for each step that can fail, all steps before it done.
  obtain h | ⟨name?, hname, h | ⟨text?, htext, h | ⟨wordAware, hword, h | ⟨strict, hstrict, h |
    ⟨heed, hheed, h | ⟨style, hstyle, h | ⟨pattern, hpattern, h | ⟨count, hcount, h |
    ⟨acronyms, hacronyms, h | ⟨exclude, hexclude, h⟩⟩⟩⟩⟩⟩⟩⟩⟩⟩ := h
  · exact .inl (isBadValue_of_readText? h)
  · exact .inl (isBadValue_of_readText? h)
  · exact .inl (isBadValue_of_readBool h)
  · exact .inl (isBadValue_of_readBool h)
  · exact .inl (isBadValue_of_readBool h)
  · exact .inl (isBadValue_of_readStyle h)
  · obtain hbad | ⟨source, fault, rfl, hparse, hkind, rfl⟩ := readPattern_eq_error_cases h
    · exact .inl hbad
    · refine .inr ⟨fault, rfl, ?_, ?_, ⟨source, readText?_eq_ok_iff.mp htext, hparse⟩, hkind⟩
      · obtain ⟨hnull, -⟩ | ⟨name, style, hname, hof, -⟩ :=
          (exists_readOptional_iff readStyle).mp ⟨name?, hname, hstyle⟩
        · exact .inl hnull
        · exact .inr ⟨name, style, hname, readStyle_eq_ok_iff.mp hof⟩
      · simp [hword, hstrict, hheed]
  · exact .inl (isBadValue_of_readDefaultCount h)
  · exact .inl (isBadValue_of_readTexts h)
  · exact .inl (isBadValue_of_readTexts h)
  · cases h

/-- An overtaxing pattern is refused, whatever the fields say that are checked after it. -/
theorem RawSettings.Overtaxes.check_eq {r : RawSettings} {fault : Pattern.Fault}
    (h : r.Overtaxes fault) : r.check = .error (.unusablePattern fault) := by
  obtain ⟨source, hsource, hparse⟩ := h.pattern
  have hpattern : readOptional readPattern (some source) = .error (.unusablePattern fault) := by
    simp [readOptional, readPattern, hparse, h.kind, Except.map]
  have hstyle : ∃ style name?, readText? .caseStyle (r .caseStyle) = .ok name? ∧
      readOptional readStyle name? = .ok style := by
    obtain hnull | ⟨name, style, htext, hof⟩ := h.style
    · exact ⟨none, (exists_readOptional_iff readStyle).mpr (.inl ⟨hnull, rfl⟩)⟩
    · exact ⟨some style, (exists_readOptional_iff readStyle).mpr
        (.inr ⟨name, style, htext, readStyle_eq_ok_iff.mpr hof, rfl⟩)⟩
  obtain ⟨style, name?, hname, hstyle⟩ := hstyle
  obtain ⟨wordAware, hword⟩ := h.flags .wordAwareAcronyms (by simp)
  obtain ⟨strict, hstrict⟩ := h.flags .strictWhitespace (by simp)
  obtain ⟨heed, hheed⟩ := h.flags .respectGitignore (by simp)
  simp only [RawSettings.check, bind_eq_error_iff, readBool_eq_ok_iff]
  exact .inr ⟨name?, hname, .inr ⟨some source, readText?_eq_ok_iff.mpr hsource,
    .inr ⟨wordAware, hword, .inr ⟨strict, hstrict, .inr ⟨heed, hheed,
      .inr ⟨style, hstyle, .inl hpattern⟩⟩⟩⟩⟩⟩

example : ((Settings.default "/").raw.set .labelPattern (.text "a\x7b4294967295\x7d")).Overtaxes
    ⟨.repeatTooLarge, none⟩ where
  style := .inl rfl
  flags := by simp [RawSettings.set, Settings.raw]
  pattern := ⟨_, rfl, by cbv⟩
  kind := rfl

/-! ## Values by name -/

theorem SettingKey.ofName?_eq_some_iff {name : String} {key : SettingKey} :
    SettingKey.ofName? name = some key ↔ key.name = name := by
  constructor
  · intro h
    simpa using List.find?_some h
  · rintro rfl
    cases key <;> rfl

theorem SettingKey.name_injective : Function.Injective SettingKey.name := by
  intro k key h
  exact Option.some.inj ((ofName?_eq_some_iff.mpr h).symm.trans (ofName?_eq_some_iff.mpr rfl))

/-- Values with entries laid over them: a field has the value of the last entry with its name. -/
def RawSettings.overlaid (r : RawSettings) (entries : List (String × Value)) : RawSettings :=
  fun key => (entries.reverse.lookup key.name).getD (r key)

theorem RawSettings.overlaid_cons (r : RawSettings) (key : SettingKey) (v : Value)
    (rest : List (String × Value)) :
    r.overlaid ((key.name, v) :: rest) = (r.set key v).overlaid rest := by
  funext k
  simp only [RawSettings.overlaid, RawSettings.set, List.reverse_cons, List.lookup_append]
  cases rest.reverse.lookup k.name with
  | some w => rfl
  | none =>
    by_cases hk : k = key
    · simp [hk]
    · have hne : (k.name == key.name) = false :=
        beq_false_of_ne (SettingKey.name_injective.ne hk)
      simp [List.lookup_cons, hne, hk]

/-- Entries set fields by name if each of them has the name of a field. -/
theorem RawSettings.assign_eq_overlaid {r : RawSettings} {entries : List (String × Value)}
    (h : ∀ entry ∈ entries, ∃ key : SettingKey, key.name = entry.1) :
    r.assign entries = .ok (r.overlaid entries) := by
  induction entries generalizing r with
  | nil => rfl
  | cons entry rest ih =>
    obtain ⟨name, v⟩ := entry
    obtain ⟨key, rfl⟩ := h (name, v) List.mem_cons_self
    rw [RawSettings.assign, SettingKey.ofName?_eq_some_iff.mpr rfl, r.overlaid_cons]
    exact ih fun entry hmem => h entry (List.mem_cons_of_mem _ hmem)

end LabelTally
