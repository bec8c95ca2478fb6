import LabelTally.Check.Rules
import LabelTally.Pattern.Reader
import LabelTally.Value.Order
import LabelTally.Value.Source

/-!
# Unchecked options

Options of a check as they are given by name, with values of any kind. Only what has to be read at
once is refused at once. Any other value of the wrong kind is refused where the check comes to use
it, so a check that ends before has nothing to say about it.
-/

namespace LabelTally.Check

open Label (Style)

/-- Why options are refused. -/
inductive OptionFault
  /-- No option has the name. -/
  | unknownName (name : String)
  /-- No style has the name. -/
  | unknownStyle (name : String)
  /-- The text is no pattern. -/
  | badPattern (source : String) (fault : Pattern.Fault)
  /-- A value of this kind holds no others. -/
  | notIterable (kind : String)
  /-- A value of this kind has no letters. -/
  | notText (kind : String)
  /-- A value of this kind cannot be a member of a set. -/
  | unhashable (kind : String)
  /-- Values of these kinds have no order. -/
  | unordered (left right : String)
  /-- A value of this kind cannot be searched for. -/
  | notSearchable (kind : String)
  /-- A value of this kind matches nothing. -/
  | noPattern (kind : String)
  /-- The pattern matches a label with a kept text that ends before it starts. -/
  | crossed
  deriving Repr, DecidableEq

/-- The words for refused options. -/
def OptionFault.message : OptionFault → String
  | .unknownName name =>
    "CheckOptions.__init__() got an unexpected keyword argument '" ++ name ++ "'"
  | .unknownStyle name => Style.unknownMessage name
  | .badPattern source fault => fault.message source
  | .notIterable kind => "'" ++ kind ++ "' object is not iterable"
  | .notText kind => "'" ++ kind ++ "' object has no attribute 'lower'"
  | .unhashable kind => "unhashable type: '" ++ kind ++ "'"
  | .unordered left right =>
    "'<' not supported between instances of '" ++ left ++ "' and '" ++ right ++ "'"
  | .notSearchable kind => "decoding to str: need a bytes-like object, " ++ kind ++ " found"
  | .noPattern kind => "'" ++ kind ++ "' object has no attribute 'fullmatch'"
  | .crossed => Pattern.crossedMessage

/-- The names of the options. -/
def optionNames : List String :=
  ["check_invalid", "check_counts", "case_style", "acronyms", "word_aware_acronyms",
   "strict_whitespace", "label_pattern", "default_count"]

/-- Options that may hold values of the wrong kind. -/
structure Unchecked where
  /-- What is of the right kind. -/
  options : Options := {}
  /-- The acronyms. -/
  acronyms : List Value := []
  /-- The kind of the label pattern, if it is given and no pattern. -/
  patternKind : Option String := none
  /-- The count of an annotation without one. -/
  defaultCount : Value := .int Comment.defaultCount

namespace Unchecked

/-- The style that a value names. -/
def readStyle : Value → Except OptionFault (Option Style)
  | .null => .ok none
  | .text name =>
    match Style.ofName? name with
    | some s => .ok (some s)
    | none => .error (.unknownStyle name)
  | v => .error (.notText v.kindName)

/-- The pattern that a value describes, or the kind of a value that describes none. -/
def readPattern : Value → Except OptionFault (Option LabelPattern × Option String)
  | .null => .ok (none, none)
  | .text source =>
    match Pattern.parse source with
    | .ok pattern => .ok (some ⟨source, pattern⟩, none)
    | .error fault => .error (.badPattern source fault)
  | v => .ok (none, some v.kindName)

/-- The acronyms that a value holds: the items of a list, the characters of a text or the keys of a
table. -/
def readAcronyms : Value → Except OptionFault (List Value)
  | .list items => .ok items
  | .text s => .ok (s.toList.map fun c => .text c.toString)
  | .table entries => .ok (entries.map fun e => .text e.1)
  | v => .error (.notIterable v.kindName)

/-- The text of a value that is one. -/
def textOf? : Value → Option (List Char)
  | .text s => some s.toList
  | _ => none

/-- The options that entries give. -/
def ofEntries (entries : List (String × Value)) : Except OptionFault Unchecked := do
  match entries.find? fun e => !optionNames.contains e.1 with
  | some (name, _) => .error (.unknownName name)
  | none =>
    let given (name : String) (absent : Value) : Value := (entries.lookup name).getD absent
    let style ← readStyle (given "case_style" .null)
    let (labelPattern, patternKind) ← readPattern (given "label_pattern" .null)
    let acronyms ← readAcronyms (given "acronyms" (.list []))
    return {
      options := {
        checkInvalid := (given "check_invalid" (.bool true)).isTrue
        checkCounts := (given "check_counts" (.bool true)).isTrue
        style
        acronyms := ⟨acronyms.filterMap textOf?,
          (given "word_aware_acronyms" (.bool false)).isTrue⟩
        strictBlanks := (given "strict_whitespace" (.bool false)).isTrue
        labelPattern }
      acronyms
      patternKind
      defaultCount := given "default_count" (.int Comment.defaultCount) }

/-- The kind of the first value that cannot be a member of a set. -/
def unhashable? (vs : List Value) : Option String :=
  vs.findSome? fun v =>
    match v with
    | .list _ | .table _ => some v.kindName
    | _ => none

/-- A count as it is shown. -/
def showCount : Value → String
  | .text s => s
  | v => v.source

/-- The different counts that comments declare, in increasing order. Of equal ones the first is
kept.
-/
def declaredCounts (default : Value) (group : List Mention) : Except OptionFault (List Value) :=
  let declared := group.map fun m =>
    match m.args.count with
    | some a => Value.int a.value
    | none => default
  match unhashable? declared with
  | some kind => .error (.unhashable kind)
  | none =>
    let distinct := declared.eraseDups
    match distinct.find? fun v => !v.isNumber with
    | some v =>
      if distinct.length > 1 then .error (.unordered v.kindName "int") else .ok distinct
    | none => .ok (distinct.mergeSort Value.le)

/-- The finding for the comments with one label that declare these counts. -/
def findingOf (label : String) (group : List Mention) (counts : List Value) : Option Finding :=
  let locations := group.map fun m => Location.mk m.path m.found.span
  match counts with
  | [] => none
  | [expected] =>
    let isCount (n : Int) : Bool := expected.asInt? == some n
    if isCount group.length then none
    else some
      { code := .countMismatch,
        message := "expected " ++ showCount expected ++ " " ++
          (if isCount 1 then "comment" else "comments") ++ " with label " ++ setOff label ++
          ", found " ++ toString group.length,
        locations }
  | counts => some
      { code := .countDisagreement,
        message := "all comments with label " ++ setOff label ++ " must have the same count",
        locations,
        notes := ["declared counts: " ++ ", ".intercalate (counts.map showCount)] }

/-- The finding for the comments with one label, if their counts do not agree with each other or
with their number. -/
def countFinding (u : Unchecked) (label : String) (group : List Mention) :
    Except OptionFault (Option Finding) :=
  match u.defaultCount with
  | .int default => .ok (Check.countFinding default label group)
  | default => (declaredCounts default group).map (findingOf label group)

/-- The findings of the second stage. -/
def countFindings (u : Unchecked) (c : Collection) : Except OptionFault (List Finding) := do
  let found ← c.groups.mapM fun g => u.countFinding g.1 g.2
  return found.filterMap id

/-- Why a label cannot be brought into a style with the given acronyms. Only the joined styles look
at them, and of those that count as true each must be a text. -/
def acronymFault? (u : Unchecked) : Option OptionFault :=
  let used := u.acronyms.filter Value.isTrue
  let texts := used.filterMap textOf?
  let others := used.filter fun v => (textOf? v).isNone
  match u.options.style with
  | some .camel | some .pascal =>
    match others with
    | [] => none
    | v :: _ =>
      if u.options.acronyms.wordAware then some (.notText v.kindName)
      else
        match unhashable? used with
        | some kind => some (.unhashable kind)
        | none =>
          if !texts.isEmpty then some (.unordered "str" v.kindName)
          else (others.mergeSort Value.le).head?.map fun v => .notSearchable v.kindName
  | _ => none

/-- Why the last stage cannot be run. -/
def styleFault? (u : Unchecked) (c : Collection) : Option OptionFault :=
  if c.mentions.isEmpty then none
  else u.acronymFault?.or (u.patternKind.map .noPattern)

/-- Runs the rules. -/
def run (u : Unchecked) (c : Collection) : Except OptionFault Report := do
  let o := u.options
  if o.checkInvalid && !(invalidFindings c).isEmpty then return Check.run o c
  else
    let counts ← if o.checkCounts then u.countFindings c else pure []
    if !counts.isEmpty then return ⟨counts, some .counts, c.files.length, c.total⟩
    else
      match u.styleFault? c with
      | some fault => .error fault
      | none =>
        let o := { o with checkCounts := false }
        if breaksOff o c then .error .crossed else return Check.run o c

end Unchecked

end LabelTally.Check
