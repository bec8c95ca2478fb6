import LabelTally.Proofs.Settings.Checks

/-!
# Merging in a store

Settings can be kept in a store and be changed there. Overrides are then merged in three steps: the
settings are copied, the copy is overridden, and the copy is checked in place, where the name of the
style is replaced as soon as it is read. What is in the store before stays as it is, also where the
checks fail half way, and the outcome is that of merging values.
-/

namespace LabelTally

open Label (Style)

/-- Values with the name that a style has among settings; without a style they stay as they are. -/
def RawSettings.named (r : RawSettings) (style : Option Style) : RawSettings :=
  style.elim r fun style => r.set .caseStyle (.text style.name)

theorem RawSettings.named_of_ne (r : RawSettings) (style : Option Style) {key : SettingKey}
    (h : key ≠ .caseStyle) : r.named style key = r key := by
  cases style with
  | none => rfl
  | some style => exact if_neg h

/-- Checked settings are the values they were given as, apart from the name of the style. -/
theorem RawSettings.Gives.raw_eq_named {r : RawSettings} {s : Settings} (h : r.Gives s) :
    s.raw = r.named s.style := by
  funext key
  have hother : key ≠ .caseStyle → r.named s.style key = r key := r.named_of_ne s.style
  cases key with
  | caseStyle =>
    obtain ⟨hnull, hs⟩ | ⟨name, style, -, -, hs⟩ := h.style
    · simp [Settings.raw, RawSettings.named, hs, hnull]
    · simp [Settings.raw, RawSettings.named, RawSettings.set, hs]
  | labelPattern =>
    rw [hother (by simp)]
    obtain ⟨hnull, hs⟩ | ⟨source, pattern, htext, -, hs⟩ := h.labelPattern
    · rw [Settings.raw, hs, hnull]
    · rw [Settings.raw, hs, htext]
  | root => exact h.root.trans (hother (by simp)).symm
  | source => exact h.source.trans (hother (by simp)).symm
  | acronyms => exact (h.acronyms.symm.trans (hother (by simp)).symm)
  | wordAwareAcronyms => exact h.wordAware.symm.trans (hother (by simp)).symm
  | strictWhitespace => exact h.strictBlanks.symm.trans (hother (by simp)).symm
  | defaultCount => exact h.defaultCount.1.symm.trans (hother (by simp)).symm
  | exclude => exact h.exclude.symm.trans (hother (by simp)).symm
  | respectGitignore => exact h.heedRuleFiles.symm.trans (hother (by simp)).symm

/-- Settings by number, in the order in which they were made. -/
abbrev SettingStore := List RawSettings

/-- A change of a store that can fail; what was changed before the failure stays changed. -/
abbrev StoreAction (α : Type) := ExceptT SettingFault (StateM SettingStore) α

namespace SettingStore

/-- The settings with a number. -/
def valuesAt (n : Nat) : StoreAction RawSettings := fun store =>
  (.ok (store.getD n fun _ => .null), store)

/-- New settings, with the next number. -/
def add (r : RawSettings) : StoreAction Nat := fun store => (.ok store.length, store ++ [r])

/-- What does not look at the store. -/
def lift {α : Type} (x : Except SettingFault α) : StoreAction α := fun store => (x, store)

/-- Gives the settings with a number the name of a style. -/
def nameStyle (n : Nat) (style : Option Style) : StoreAction Unit := fun store =>
  (.ok (), store.modify n (·.named style))

/-- Checks the values of the settings with a number. The style gets its own name in the store before
the pattern, the count and the lists are looked at. -/
def checkValues (n : Nat) (r : RawSettings) : StoreAction Unit := do
  let styleName ← lift (readText? .caseStyle (r .caseStyle))
  let patternText ← lift (readText? .labelPattern (r .labelPattern))
  let _ ← lift (readBool .wordAwareAcronyms (r .wordAwareAcronyms))
  let _ ← lift (readBool .strictWhitespace (r .strictWhitespace))
  let _ ← lift (readBool .respectGitignore (r .respectGitignore))
  let style ← lift (readOptional readStyle styleName)
  nameStyle n style
  let _ ← lift (readOptional readPattern patternText)
  let _ ← lift (readDefaultCount (r .defaultCount))
  let _ ← lift (readTexts .acronyms (r .acronyms))
  let _ ← lift (readTexts .exclude (r .exclude))
  return ()

/-- Checks the settings with a number in place. -/
def check (n : Nat) : StoreAction Unit := do checkValues n (← valuesAt n)

/-- Merges overrides into a copy of the settings with a number, and gives the number of the copy. -/
def merge (n : Nat) (overrides : List (String × Value)) : StoreAction Nat := do
  let r ← valuesAt n
  let copy ← lift (r.assign (overrides.filter fun o => isPresent o.2))
  let m ← add copy
  check m
  return m

/-- Two stores have the same settings, but for those with one number. -/
structure SameBut (n : Nat) (store after : SettingStore) : Prop where
  /-- No settings are added or removed. -/
  length : after.length = store.length
  /-- All others are the same. -/
  others : ∀ i, i ≠ n → after[i]? = store[i]?

theorem SameBut.refl (n : Nat) (store : SettingStore) : SameBut n store store :=
  ⟨rfl, fun _ _ => rfl⟩

theorem SameBut.trans {n : Nat} {store between after : SettingStore} (h : SameBut n store between)
    (h' : SameBut n between after) : SameBut n store after :=
  ⟨h'.length.trans h.length, fun i hi => (h'.others i hi).trans (h.others i hi)⟩

theorem sameBut_modify (n : Nat) (store : SettingStore) (f : RawSettings → RawSettings) :
    SameBut n store (store.modify n f) :=
  ⟨List.length_modify .., fun _ hi => List.getElem?_modify_ne f store (Ne.symm hi)⟩

/-- A store that differs from one with new settings in these only has the others and some settings
in the place of the new ones. -/
theorem SameBut.exists_eq_append {store after : SettingStore} {r : RawSettings}
    (h : SameBut store.length (store ++ [r]) after) : ∃ r', after = store ++ [r'] := by
  have hlength : after.length = store.length + 1 := by rw [h.length, List.length_append]; rfl
  refine ⟨after.get ⟨store.length, by omega⟩, List.ext_getElem? fun i => ?_⟩
  by_cases hi : i = store.length
  · subst hi
    rw [List.getElem?_append_right le_rfl, Nat.sub_self]
    exact List.getElem?_eq_getElem _
  · rw [h.others i hi]
    by_cases hlt : i < store.length
    · rw [List.getElem?_append_left hlt, List.getElem?_append_left hlt]
    · have hout : ∀ x : RawSettings, (store ++ [x])[i]? = none := fun x => by
        rw [List.getElem?_eq_none_iff, List.length_append, List.length_singleton]
        omega
      rw [hout, hout]

/-- What checking in place makes of a store, where checking the values has an outcome. -/
structure Yields (n : Nat) (store : SettingStore) (outcome : Except SettingFault Settings)
    (result : Except SettingFault Unit × SettingStore) : Prop where
  /-- Other settings are left alone. -/
  kept : SameBut n store result.2
  /-- Where values pass the checks, they do so in place and are then the checked ones. -/
  ok : ∀ s, outcome = .ok s → result.1 = .ok () ∧ result.2[n]? = some s.raw
  /-- Where values fail a check, they fail it in place. -/
  error : ∀ e, outcome = .error e → result.1 = .error e

section Yields

variable {n : Nat} {store : SettingStore} {α : Type}

/-- The same step can be made first on both sides. -/
theorem Yields.lift_bind {x : Except SettingFault α} {act : α → StoreAction Unit}
    {next : α → Except SettingFault Settings}
    (h : ∀ a, x = .ok a → Yields n store (next a) (act a store)) :
    Yields n store (x >>= next) ((lift x >>= act) store) := by
  cases x with
  | error e =>
    refine ⟨.refl n store, fun s hs => ?_, fun e' he => ?_⟩
    · cases hs
    · cases he
      rfl
  | ok a => exact h a rfl

/-- The settings with the number can be changed first. -/
theorem Yields.of_sameBut {outcome : Except SettingFault Settings} {between : SettingStore}
    {result : Except SettingFault Unit × SettingStore} (hfirst : SameBut n store between)
    (h : Yields n between outcome result) : Yields n store outcome result :=
  ⟨hfirst.trans h.kept, h.ok, h.error⟩

end Yields

/-- Checking settings in place yields what checking their values does. -/
theorem yields_check {n : Nat} {store : SettingStore} {r : RawSettings} (hr : store[n]? = some r) :
    Yields n store r.check (check n store) := by
  have hget : check n store = checkValues n r store := by
    show checkValues n (store.getD n fun _ => .null) store = _
    rw [List.getD_eq_getElem?_getD, hr, Option.getD_some]
  rw [hget]
  refine .lift_bind fun name? hname => .lift_bind fun text? htext =>
    .lift_bind fun wordAware hword => .lift_bind fun strict hstrict =>
    .lift_bind fun heed hheed => .lift_bind fun style hstyle => ?_
  -- From here on the store has the name of the style.
  refine .of_sameBut (sameBut_modify n store (·.named style)) ?_
  refine .lift_bind fun pattern hpattern => .lift_bind fun count hcount =>
    .lift_bind fun acronyms hacronyms => .lift_bind fun exclude hexclude => ?_
  refine ⟨.refl n _, fun s hs => ⟨rfl, ?_⟩, fun e he => ?_⟩
  · have hcheck : r.check = .ok s := by
      simp only [RawSettings.check, bind_eq_ok_iff]
      exact ⟨name?, hname, text?, htext, wordAware, hword, strict, hstrict, heed, hheed, style,
        hstyle, pattern, hpattern, count, hcount, acronyms, hacronyms, exclude, hexclude, hs⟩
    rw [(RawSettings.check_eq_ok_iff.mp hcheck).raw_eq_named]
    cases hs
    exact (List.getElem?_modify_eq _ n store).trans (congrArg (Option.map _) hr)
  · cases he

theorem bind_pure_apply (act : StoreAction Unit) (m : Nat) (store : SettingStore) :
    (act >>= fun _ => pure m) store = ((act store).1.map fun _ => m, (act store).2) := by
  simp only [bind, ExceptT.bind, ExceptT.mk, StateT.bind, ExceptT.bindCont]
  rcases act store with ⟨outcome, after⟩
  cases outcome <;> rfl

section Merge

variable {n : Nat} {store : SettingStore} {r : RawSettings} (hr : store[n]? = some r)
  {overrides : List (String × Value)}
include hr

theorem merge_of_assign_error {e : SettingFault}
    (h : r.assign (overrides.filter fun o => isPresent o.2) = .error e) :
    merge n overrides store = (.error e, store) := by
  show (lift ((store.getD n fun _ => .null).assign _) >>= _) store = _
  rw [List.getD_eq_getElem?_getD, hr, Option.getD_some, h]
  rfl

/-- The copy is checked in place, as the last settings of the store. -/
theorem merge_of_assign {copy : RawSettings}
    (h : r.assign (overrides.filter fun o => isPresent o.2) = .ok copy) :
    merge n overrides store =
      ((check store.length (store ++ [copy])).1.map fun _ => store.length,
        (check store.length (store ++ [copy])).2) := by
  show (lift ((store.getD n fun _ => .null).assign _) >>= _) store = _
  rw [List.getD_eq_getElem?_getD, hr, Option.getD_some, h]
  exact bind_pure_apply (check store.length) store.length (store ++ [copy])

/-- Merging in a store adds a copy, which is what merging values gives, or fails as that does. All
that was in the store stays as it was. -/
theorem merge_apply :
    store <+: (merge n overrides store).2 ∧
      (∀ s, r.merged overrides = .ok s →
        merge n overrides store = (.ok store.length, store ++ [s.raw])) ∧
      ∀ e, r.merged overrides = .error e → (merge n overrides store).1 = .error e := by
  rw [RawSettings.merged]
  cases h : r.assign (overrides.filter fun o => isPresent o.2) with
  | error e =>
    rw [merge_of_assign_error hr h]
    refine ⟨List.prefix_rfl, fun s hs => ?_, fun e' he => ?_⟩
    · cases hs
    · cases he
      rfl
  | ok copy =>
    rw [merge_of_assign hr h]
    have hlast : (store ++ [copy])[store.length]? = some copy := by simp
    obtain ⟨hkept, hok, herror⟩ := yields_check hlast
    obtain ⟨r', hafter⟩ := hkept.exists_eq_append
    rw [hafter] at hok ⊢
    refine ⟨List.prefix_append .., fun s hs => ?_, fun e he => ?_⟩
    · obtain ⟨houtcome, hnew⟩ := hok s hs
      have hsame : r' = s.raw := by simpa using hnew
      rw [houtcome, hsame]
      rfl
    · rw [herror e he]
      rfl

end Merge

end SettingStore

end LabelTally
