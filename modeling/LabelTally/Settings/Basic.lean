import LabelTally.Check.Rules
import LabelTally.Pattern.Reader
import LabelTally.Value.Source

/-!
# Settings

Settings arrive as values of any kind, from a file or from overrides, and are checked in a fixed
order. Checked settings can be written back as values, so overriding them checks the whole again.
-/

namespace LabelTally

open Check (LabelPattern)
open Label (Style)

/-- The fields of settings. The first two say where the settings come from. -/
inductive SettingKey
  /-- The directory the settings are for. -/
  | root
  /-- The file they were read from. -/
  | source
  /-- The style of labels. -/
  | caseStyle
  /-- Acronyms that stay in capitals. -/
  | acronyms
  /-- Only whole words are taken for acronyms. -/
  | wordAwareAcronyms
  /-- Blanks around arguments are reported. -/
  | strictWhitespace
  /-- The pattern of labels. -/
  | labelPattern
  /-- The count of an annotation without one. -/
  | defaultCount
  /-- Further ignore rules. -/
  | exclude
  /-- Files with ignore rules are heeded. -/
  | respectGitignore
  deriving Repr, DecidableEq

namespace SettingKey

/-- The name of a field. -/
def name : SettingKey → String
  | root => "root"
  | source => "source"
  | caseStyle => "case_style"
  | acronyms => "acronyms"
  | wordAwareAcronyms => "word_aware_acronyms"
  | strictWhitespace => "strict_whitespace"
  | labelPattern => "label_pattern"
  | defaultCount => "default_count"
  | exclude => "exclude"
  | respectGitignore => "respect_gitignore"

/-- The fields that a settings file can hold. -/
def inFile : List SettingKey :=
  [caseStyle, acronyms, wordAwareAcronyms, strictWhitespace, labelPattern, defaultCount, exclude,
   respectGitignore]

/-- All fields, in the order in which they are described. -/
def all : List SettingKey := [root, source] ++ inFile

/-- The field with a name. -/
def ofName? (s : String) : Option SettingKey := all.find? fun k => k.name == s

end SettingKey

/-- Why settings are refused. -/
inductive SettingFault
  /-- No field has the name. -/
  | unknownName (name : String)
  /-- A value is no text. -/
  | notText (key : SettingKey) (value : Value)
  /-- A value is no truth value. -/
  | notBool (key : SettingKey) (value : Value)
  /-- No style has the name. -/
  | unknownStyle (name : String)
  /-- The text is no pattern. -/
  | badPattern (source : String) (fault : Pattern.Fault)
  /-- The pattern is well formed but cannot be used. -/
  | unusablePattern (fault : Pattern.Fault)
  /-- A value is no integer. -/
  | notInteger (value : Value)
  /-- The count is outside its bounds. -/
  | countOutOfRange
  /-- A value is no list of texts. -/
  | notTexts (key : SettingKey)

/-- The words for refused settings. -/
def SettingFault.message : SettingFault → String
  | .unknownName name =>
    "ProjectConfig.__init__() got an unexpected keyword argument '" ++ name ++ "'"
  | .notText key v => v.endMessage (key.name ++ " must be a string, got ")
  | .notBool key v => v.endMessage (key.name ++ " must be true or false, got ")
  | .unknownStyle name => Style.unknownMessage name
  | .badPattern source fault =>
    "Invalid label_pattern " ++ Text.quote source ++ ": " ++ fault.message source
  | .unusablePattern fault => fault.message ""
  | .notInteger v => v.endMessage "default_count must be an integer, got "
  | .countOutOfRange => "default_count must be between 1 and " ++ toString Comment.maxCount
  | .notTexts key => key.name ++ " must be a list of strings"

/-- A value for every field, checked or not. -/
abbrev RawSettings := SettingKey → Value

/-- Checked settings. -/
structure Settings where
  /-- The directory they are for, not checked. -/
  root : Value
  /-- The file they were read from, not checked. -/
  source : Value := .null
  /-- The style of labels. -/
  style : Option Style := none
  /-- Acronyms that stay in capitals. -/
  acronyms : List String := []
  /-- Only whole words are taken for acronyms. -/
  wordAware : Bool := false
  /-- Blanks around arguments are reported. -/
  strictBlanks : Bool := false
  /-- The pattern of labels. -/
  labelPattern : Option LabelPattern := none
  /-- The count of an annotation without one. -/
  defaultCount : Int := Comment.defaultCount
  /-- Further ignore rules. -/
  exclude : List String := []
  /-- Files with ignore rules are heeded. -/
  heedRuleFiles : Bool := true

/-- Checked settings as values. -/
def Settings.raw (s : Settings) : RawSettings
  | .root => s.root
  | .source => s.source
  | .caseStyle => match s.style with
    | some style => .text style.name
    | none => .null
  | .acronyms => .list (s.acronyms.map .text)
  | .wordAwareAcronyms => .bool s.wordAware
  | .strictWhitespace => .bool s.strictBlanks
  | .labelPattern => match s.labelPattern with
    | some p => .text p.source
    | none => .null
  | .defaultCount => .int s.defaultCount
  | .exclude => .list (s.exclude.map .text)
  | .respectGitignore => .bool s.heedRuleFiles

/-- The settings in force where nothing is set. -/
def Settings.default (root : String) : Settings := { root := .text root }

/-- A text, or none for the absent value. -/
def readText? (key : SettingKey) : Value → Except SettingFault (Option String)
  | .null => .ok none
  | .text s => .ok (some s)
  | v => .error (.notText key v)

/-- A truth value. -/
def readBool (key : SettingKey) : Value → Except SettingFault Bool
  | .bool b => .ok b
  | v => .error (.notBool key v)

/-- The style with a name. -/
def readStyle (name : String) : Except SettingFault Style :=
  match Style.ofName? name with
  | some s => .ok s
  | none => .error (.unknownStyle name)

/-- The pattern of a text. -/
def readPattern (source : String) : Except SettingFault LabelPattern :=
  match Pattern.parse source with
  | .ok p => .ok ⟨source, p⟩
  | .error fault =>
    if fault.problem.kind = .malformed then .error (.badPattern source fault)
    else .error (.unusablePattern fault)

/-- The count of an annotation without one: from 1 to 65535. -/
def readDefaultCount : Value → Except SettingFault Int
  | .int n => if 1 ≤ n && n ≤ Comment.maxCount then .ok n else .error .countOutOfRange
  | v => .error (.notInteger v)

/-- The texts of a list of texts. -/
def textItems? : List Value → Option (List String)
  | [] => some []
  | .text s :: rest => (textItems? rest).map (s :: ·)
  | _ :: _ => none

/-- A list of texts. -/
def readTexts (key : SettingKey) : Value → Except SettingFault (List String)
  | .list items =>
    match textItems? items with
    | some texts => .ok texts
    | none => .error (.notTexts key)
  | _ => .error (.notTexts key)

/-- Reads what may be absent. -/
def readOptional {α : Type} (read : String → Except SettingFault α) :
    Option String → Except SettingFault (Option α)
  | none => .ok none
  | some s => (read s).map some

/-- Checks settings: first the kinds of texts and truth values, then what the texts say, then the
count, then the lists. -/
def RawSettings.check (r : RawSettings) : Except SettingFault Settings := do
  let styleName ← readText? .caseStyle (r .caseStyle)
  let patternText ← readText? .labelPattern (r .labelPattern)
  let wordAware ← readBool .wordAwareAcronyms (r .wordAwareAcronyms)
  let strictBlanks ← readBool .strictWhitespace (r .strictWhitespace)
  let heedRuleFiles ← readBool .respectGitignore (r .respectGitignore)
  let style ← readOptional readStyle styleName
  let labelPattern ← readOptional readPattern patternText
  let defaultCount ← readDefaultCount (r .defaultCount)
  let acronyms ← readTexts .acronyms (r .acronyms)
  let exclude ← readTexts .exclude (r .exclude)
  return { root := r .root, source := r .source, style, acronyms, wordAware, strictBlanks,
           labelPattern, defaultCount, exclude, heedRuleFiles }

/-- Settings with one field set. -/
def RawSettings.set (r : RawSettings) (key : SettingKey) (v : Value) : RawSettings :=
  fun k => if k = key then v else r k

/-- Settings with fields set by name. -/
def RawSettings.assign (r : RawSettings) : List (String × Value) → Except SettingFault RawSettings
  | [] => .ok r
  | (name, v) :: rest =>
    match SettingKey.ofName? name with
    | none => .error (.unknownName name)
    | some key => (r.set key v).assign rest

/-- The value is not the absent one. -/
def isPresent : Value → Bool
  | .null => false
  | _ => true

/-- Settings with overrides, checked; absent values override nothing. -/
def RawSettings.merged (r : RawSettings) (overrides : List (String × Value)) :
    Except SettingFault Settings := do
  (← r.assign (overrides.filter fun o => isPresent o.2)).check

/-- The rules that settings ask for. An empty pattern asks for nothing. -/
def Settings.checkOptions (s : Settings) : Check.Options :=
  { style := s.style, acronyms := ⟨s.acronyms.map String.toList, s.wordAware⟩,
    strictBlanks := s.strictBlanks,
    labelPattern := s.labelPattern.filter fun p => !p.source.isEmpty,
    defaultCount := s.defaultCount }

/-- A path among the settings, as it is described. -/
def describePath : Value → String
  | .text s => "PosixPath(" ++ Text.quote s ++ ")"
  | v => v.source

/-- The description of settings in the log. -/
def Settings.describe (s : Settings) : String :=
  let describeField (key : SettingKey) : String :=
    key.name ++ "=" ++ (if key = .root ∨ key = .source then describePath (s.raw key)
      else (s.raw key).source)
  "ProjectConfig(" ++ ", ".intercalate (SettingKey.all.map describeField) ++ ")"

end LabelTally
