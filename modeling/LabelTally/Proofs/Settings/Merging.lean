import LabelTally.Check.Unchecked
import LabelTally.Proofs.Settings.InPlace

/-!
# Merging overrides

Settings with overrides are checked as a whole, so what comes out is in order: merging nothing into
it changes nothing, and the rules that it asks for can be read. Merging twice is merging once, with
the later overrides laid over the earlier ones: the same settings come out, or the same fault.
-/

namespace LabelTally

open Check (Unchecked)
open Label (Style)

/-- Each entry has the name of a field. -/
def NameFields (overrides : List (String × Value)) : Prop :=
  ∀ entry ∈ overrides, ∃ key : SettingKey, key.name = entry.1

/-- The overrides that have a value. -/
def presentOf (overrides : List (String × Value)) : List (String × Value) :=
  overrides.filter fun o => isPresent o.2

/-- Overrides with others laid over them: those that have a value replace the ones with their
names. -/
def overlay (first second : List (String × Value)) : List (String × Value) :=
  (first.filter fun o => !(presentOf second).any (·.1 == o.1)) ++ presentOf second

theorem NameFields.presentOf {overrides : List (String × Value)} (h : NameFields overrides) :
    NameFields (presentOf overrides) := fun entry hmem => h entry (List.mem_filter.mp hmem).1

theorem NameFields.overlay {first second : List (String × Value)} (hfirst : NameFields first)
    (hsecond : NameFields second) : NameFields (overlay first second) := by
  intro entry hmem
  obtain hmem | hmem := List.mem_append.mp hmem
  · exact hfirst entry (List.mem_filter.mp hmem).1
  · exact hsecond.presentOf entry hmem

/-- Merging lays the present overrides over the values and checks the whole. -/
theorem RawSettings.merged_eq_check {r : RawSettings} {overrides : List (String × Value)}
    (h : NameFields overrides) : r.merged overrides = (r.overlaid (presentOf overrides)).check := by
  rw [RawSettings.merged, ← presentOf, assign_eq_overlaid h.presentOf]
  rfl

/-! ## Entries laid over entries -/

theorem RawSettings.overlaid_append (r : RawSettings) (first second : List (String × Value)) :
    r.overlaid (first ++ second) = (r.overlaid first).overlaid second := by
  funext key
  simp only [RawSettings.overlaid, List.reverse_append, List.lookup_append]
  cases second.reverse.lookup key.name <;> rfl

/-- Leaving out entries with other names does not matter for a name. -/
theorem lookup_filter (keep : String → Bool) {name : String} (h : keep name = true)
    (entries : List (String × Value)) :
    (entries.filter fun o => keep o.1).lookup name = entries.lookup name := by
  induction entries with
  | nil => rfl
  | cons entry rest ih =>
    obtain ⟨other, v⟩ := entry
    rw [List.filter_cons, List.lookup_cons]
    by_cases hname : name = other
    · subst hname
      simp [h]
    · rw [beq_false_of_ne hname, ← ih]
      split
      · rw [List.lookup_cons, beq_false_of_ne hname]
      · rfl

/-- Entries whose names come again are of no account. -/
theorem RawSettings.overlaid_filter_append (r : RawSettings)
    (first second : List (String × Value)) :
    r.overlaid ((first.filter fun o => !second.any (·.1 == o.1)) ++ second) =
      r.overlaid (first ++ second) := by
  rw [overlaid_append, overlaid_append]
  funext key
  simp only [RawSettings.overlaid]
  cases hsecond : second.reverse.lookup key.name with
  | some v => rfl
  | none =>
    have hkeep : (!second.any (·.1 == key.name)) = true := by
      rw [Bool.not_eq_true', List.any_eq_false]
      intro entry hmem
      have hne := List.lookup_eq_none_iff.mp hsecond entry (List.mem_reverse.mpr hmem)
      exact fun heq => bne_iff_ne.mp hne (beq_iff_eq.mp heq).symm
    rw [← List.filter_reverse, lookup_filter (fun name => !second.any (·.1 == name)) hkeep]

theorem RawSettings.overlaid_overlay (r : RawSettings) (first second : List (String × Value)) :
    r.overlaid (presentOf (overlay first second)) =
      (r.overlaid (presentOf first)).overlaid (presentOf second) := by
  have hpresent : presentOf (overlay first second) =
      ((presentOf first).filter fun o => !(presentOf second).any (·.1 == o.1)) ++
        presentOf second := by
    simp only [overlay, presentOf, List.filter_append, List.filter_filter, Bool.and_self,
      Bool.and_comm]
  rw [hpresent, overlaid_filter_append, overlaid_append]

/-! ## Checking again -/

/-- Values that differ in the spelling of one style only have the same outcome. -/
theorem RawSettings.check_congr {r r' : RawSettings}
    (hstyle : r .caseStyle = r' .caseStyle ∨ ∃ name name' style, r .caseStyle = .text name ∧
      r' .caseStyle = .text name' ∧ Style.ofName? name = some style ∧
        Style.ofName? name' = some style)
    (hother : ∀ key, key ≠ .caseStyle → r key = r' key) : r.check = r'.check := by
  obtain hsame | ⟨name, name', style, hname, hname', hof, hof'⟩ := hstyle
  · congr 1
    funext key
    by_cases hkey : key = .caseStyle
    · rw [hkey, hsame]
    · exact hother key hkey
  · have hread : ∀ {name : String}, Style.ofName? name = some style →
        readOptional readStyle (some name) = .ok (some style) := by
      intro name hof
      rw [readOptional, readStyle_eq_ok_iff.mpr hof]
      rfl
    simp only [RawSettings.check, hname, hname', hother, ne_eq, reduceCtorEq, not_false_eq_true,
      readText?]
    simp only [bind, Except.bind, hread hof, hread hof']

/-- Checked settings can be overridden in place of the values they come from. -/
theorem RawSettings.Gives.check_overlaid {r : RawSettings} {s : Settings} (h : r.Gives s)
    (entries : List (String × Value)) :
    (s.raw.overlaid entries).check = (r.overlaid entries).check := by
  have hraw := h.raw_eq_named
  refine check_congr ?_ fun key hkey => ?_
  · simp only [RawSettings.overlaid]
    cases entries.reverse.lookup SettingKey.caseStyle.name with
    | some v => exact .inl rfl
    | none =>
      rw [Option.getD_none, Option.getD_none, hraw]
      obtain ⟨-, hs⟩ | ⟨name, style, htext, hof, hs⟩ := h.style
      · exact .inl (by rw [hs]; rfl)
      · exact .inr ⟨style.name, name, style, by rw [hs]; rfl, htext, ofName?_name style, hof⟩
  · rw [RawSettings.overlaid, RawSettings.overlaid, hraw, r.named_of_ne s.style hkey]

/-! ## The rules that settings ask for -/

/-- Values as options of a check, by name. A pattern that counts as false is left out. -/
def RawSettings.optionEntries (r : RawSettings) : List (String × Value) :=
  [("case_style", r .caseStyle), ("acronyms", r .acronyms),
    ("word_aware_acronyms", r .wordAwareAcronyms), ("strict_whitespace", r .strictWhitespace),
    ("label_pattern", if (r .labelPattern).isTrue then r .labelPattern else .null),
    ("default_count", r .defaultCount)]

/-- The options are those that settings ask for, and each is of the right kind. -/
structure Settings.AsksFor (s : Settings) (u : Unchecked) : Prop where
  options : { u.options with defaultCount := s.defaultCount } = s.checkOptions
  acronyms : u.acronyms = s.acronyms.map .text
  patternKind : u.patternKind = none
  defaultCount : u.defaultCount = .int s.defaultCount

theorem filterMap_textOf?_map_text (texts : List String) :
    (texts.map Value.text).filterMap Unchecked.textOf? = texts.map String.toList := by
  induction texts with
  | nil => rfl
  | cons text rest ih => simp [Unchecked.textOf?, ih]

/-- The style and the pattern of checked settings can be read again as options. -/
theorem RawSettings.Gives.exists_options {r : RawSettings} {s : Settings} (h : r.Gives s) :
    ∃ u, Unchecked.ofEntries s.raw.optionEntries = .ok u ∧ s.AsksFor u := by
  have hstyle : Unchecked.readStyle (s.raw .caseStyle) = .ok s.style := by
    cases hs : s.style with
    | none => simp [Settings.raw, hs, Unchecked.readStyle]
    | some style => simp [Settings.raw, hs, Unchecked.readStyle, ofName?_name]
  have hpattern : Unchecked.readPattern (if (s.raw .labelPattern).isTrue then s.raw .labelPattern
      else .null) = .ok (s.checkOptions.labelPattern, none) := by
    obtain ⟨-, hs⟩ | ⟨source, pattern, -, hparse, hs⟩ := h.labelPattern
    · simp [Settings.raw, hs, Settings.checkOptions, Unchecked.readPattern]
    · by_cases hempty : source.isEmpty
      · simp [Settings.raw, hs, Settings.checkOptions, Value.isTrue, hempty, Unchecked.readPattern,
          Option.filter_some]
      · simp [Settings.raw, hs, Settings.checkOptions, Value.isTrue, hempty, Unchecked.readPattern,
          Option.filter_some, hparse]
  have hknown : s.raw.optionEntries.find? (fun e => !Check.optionNames.contains e.1) = none := by
    simp [RawSettings.optionEntries, Check.optionNames]
  refine ⟨⟨{ s.checkOptions with defaultCount := Comment.defaultCount }, s.acronyms.map .text, none,
    .int s.defaultCount⟩, ?_, ⟨rfl, rfl, rfl, rfl⟩⟩
  have hacronyms : s.checkOptions.acronyms =
      ⟨(s.acronyms.map Value.text).filterMap Unchecked.textOf?, s.wordAware⟩ := by
    rw [filterMap_textOf?_map_text]
    rfl
  rw [Unchecked.ofEntries, hknown]
  simp only [RawSettings.optionEntries, List.lookup, String.reduceBEq, Option.getD_some, hstyle,
    hpattern, hacronyms]
  rfl

/-! ## Merging again -/

/-- The settings are in order: they pass all checks, the style has its own name, and the rules that
they ask for can be read. -/
structure Settings.IsValid (s : Settings) : Prop where
  checked : s.raw.Gives s
  styleName : s.raw .caseStyle = .null ∨ ∃ style : Style, s.raw .caseStyle = .text style.name
  options : ∃ u, Unchecked.ofEntries s.raw.optionEntries = .ok u ∧ s.AsksFor u

theorem RawSettings.Gives.isValid {r : RawSettings} {s : Settings} (h : r.Gives s) : s.IsValid where
  checked := h.raw
  styleName := by
    cases hs : s.style with
    | none => exact .inl (by rw [Settings.raw, hs])
    | some style => exact .inr ⟨style, by rw [Settings.raw, hs]⟩
  options := h.exists_options

/-- Settings that come out of a merge are the values with the overrides that have a value, but for
the spelling of the style, and are in order. Merging nothing into them changes nothing, and merging
further overrides into them is merging all at once, also where that fails. Where the values are kept
in a store, they stay as they are, and what is merged is added or the same fault is met. -/
theorem RawSettings.merged_validates {first second : List (String × Value)} (r : RawSettings)
    (hfirst : NameFields first) (hsecond : NameFields second) :
    (∀ s, r.merged first = .ok s →
      s.raw = (r.overlaid (presentOf first)).named s.style ∧ s.IsValid ∧
        s.raw.merged [] = .ok s ∧ s.raw.merged second = r.merged (overlay first second)) ∧
      ∀ (store : SettingStore) (n : Nat), store[n]? = some r →
        store <+: (SettingStore.merge n first store).2 ∧
          (SettingStore.merge n first store).1 = (r.merged first).map (fun _ => store.length) ∧
          ∀ s, r.merged first = .ok s →
            (SettingStore.merge n first store).2[store.length]? = some s.raw := by
  refine ⟨fun s hs => ?_, fun store n hr => ?_⟩
  · have hgives : (r.overlaid (presentOf first)).Gives s := by
      rwa [merged_eq_check hfirst, check_eq_ok_iff] at hs
    refine ⟨hgives.raw_eq_named, hgives.isValid, check_eq_ok_iff.mpr hgives.raw, ?_⟩
    rw [merged_eq_check hsecond, merged_eq_check (hfirst.overlay hsecond), overlaid_overlay]
    exact hgives.check_overlaid (presentOf second)
  · obtain ⟨hkept, hok, herror⟩ := @SettingStore.merge_apply n store r hr first
    refine ⟨hkept, ?_, fun s hs => ?_⟩
    · cases hm : r.merged first with
      | ok s =>
        rw [hok s hm]
        rfl
      | error e => exact herror e hm
    · rw [hok s hs]
      simp

/-- Values with an unusual spelling of a style and acronyms of the wrong kind. -/
def unusualValues : RawSettings :=
  ((Settings.default "/").raw.set .caseStyle (.text "Screaming-Snake Case")).set .acronyms (.int 3)

/-- The acronyms are put right; then the count is put wrong, and is refused as it would have been at
once. An absent value overrides nothing. -/
theorem RawSettings.merged_validates_then_refuses :
    NameFields [("acronyms", .list [.text "ID"]), ("default_count", .null)] ∧
    NameFields [("default_count", .int 0), ("acronyms", .null)] ∧
    ∃ s, unusualValues.merged [("acronyms", .list [.text "ID"]), ("default_count", .null)] = .ok s ∧
      s.raw .caseStyle = .text "screaming_snake" ∧ s.IsValid ∧
      s.raw.merged [("default_count", .int 0), ("acronyms", .null)] = .error .countOutOfRange ∧
      (SettingStore.merge 0 [("acronyms", .list [.text "ID"]), ("default_count", .null)]
        [unusualValues]).2[0]? = some unusualValues := by
  have hfirst : NameFields [("acronyms", .list [.text "ID"]), ("default_count", .null)] := by
    simp only [NameFields, List.forall_mem_cons]
    exact ⟨⟨.acronyms, rfl⟩, ⟨.defaultCount, rfl⟩, by simp⟩
  have hsecond : NameFields [("default_count", .int 0), ("acronyms", .null)] := by
    simp only [NameFields, List.forall_mem_cons]
    exact ⟨⟨.defaultCount, rfl⟩, ⟨.acronyms, rfl⟩, by simp⟩
  obtain ⟨hmerged, hstore⟩ := merged_validates unusualValues hfirst hsecond
  have hs : unusualValues.merged [("acronyms", .list [.text "ID"]), ("default_count", .null)] =
      .ok { Settings.default "/" with style := some .screamingSnake, acronyms := ["ID"] } := by
    rfl
  obtain ⟨-, hvalid, -, hagain⟩ := hmerged _ hs
  obtain ⟨⟨added, hkept⟩, -, -⟩ := hstore [unusualValues] 0 rfl
  exact ⟨hfirst, hsecond, _, hs, rfl, hvalid, hagain, by rw [← hkept]; rfl⟩

end LabelTally
