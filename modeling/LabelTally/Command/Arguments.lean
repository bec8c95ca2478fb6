import LabelTally.Command.Closeness
import LabelTally.FileTree.Path
import LabelTally.Text.Quoted

/-!
# Command-line arguments

Options and the path to check can be mixed. An option with a value takes the text after an equals
sign or else the next argument, whatever it is; two dashes end the options. The last of repeated
options counts, and acronyms add up. A name that there is none of is answered with close ones.
-/

namespace LabelTally.Command

/-- What is asked of a check. -/
structure CheckRequest where
  /-- What to check. -/
  path : Path := Path.here
  /-- The style of labels. -/
  style : Option String := none
  /-- Acronyms. -/
  acronyms : List String := []
  /-- Only whole words are taken for acronyms. -/
  wordAware : Option Bool := none
  /-- Blanks around arguments are reported. -/
  strictBlanks : Option Bool := none
  /-- The pattern of labels. -/
  labelPattern : Option String := none
  /-- Files with ignore rules are heeded. -/
  heedRuleFiles : Option Bool := none
  /-- Print JSON. -/
  json : Bool := false
  /-- Print the label table. -/
  summary : Bool := false
  /-- Print the log. -/
  verbose : Bool := false
  deriving Repr, DecidableEq

/-- Why arguments are refused. -/
inductive UsageFault
  /-- No option has the name; some options are close to it, and some commands to what was given. -/
  | noOption (name : String) (options commands : List String)
  /-- No command has the name; some are close to it. -/
  | noCommand (name : String) (commands : List String)
  /-- There is no command. -/
  | missingCommand
  /-- An option has no value. -/
  | needsArgument (name : String)
  /-- An option has a value and takes none. -/
  | takesNoValue (name : String)
  /-- There are more arguments than expected. -/
  | extraArguments (arguments : List String)
  deriving Repr, DecidableEq

/-- The words that suggest commands. -/
def suggestCommands (commands : List String) : String :=
  if commands.isEmpty then ""
  else ". Did you mean " ++ ", ".intercalate (commands.map Text.quote) ++ "?"

/-- The words that suggest options. -/
def suggestOptions (options : List String) : String :=
  if options.isEmpty then ""
  else
    let sorted := options.mergeSort fun a b => decide (a ≤ b)
    " (Possible options: " ++ ", ".intercalate sorted ++ ")"

/-- The words for refused arguments. -/
def UsageFault.message : UsageFault → String
  | .noOption name options commands =>
    "No such option: " ++ name ++ suggestCommands commands ++ suggestOptions options
  | .noCommand name commands =>
    "No such command " ++ Text.quote name ++
      if commands.isEmpty then "." else suggestCommands commands
  | .missingCommand => "Missing command."
  | .needsArgument name => "Option '" ++ name ++ "' requires an argument."
  | .takesNoValue name => "Option '" ++ name ++ "' does not take a value."
  | .extraArguments arguments =>
    "Got unexpected extra argument(s) (" ++ " ".intercalate arguments ++ ")"

/-- What an option does to a request. -/
inductive Effect
  /-- It is set. -/
  | flag (f : CheckRequest → CheckRequest)
  /-- It is set to a value. -/
  | valued (f : String → CheckRequest → CheckRequest)

/-- The options of a check. -/
def checkOption? : String → Option Effect
  | "--case" => some (.valued fun v r => { r with style := some v })
  | "--acronym" => some (.valued fun v r => { r with acronyms := r.acronyms ++ [v] })
  | "--word-aware" => some (.flag fun r => { r with wordAware := some true })
  | "--blind-acronyms" => some (.flag fun r => { r with wordAware := some false })
  | "--strict-whitespace" => some (.flag fun r => { r with strictBlanks := some true })
  | "--no-strict-whitespace" => some (.flag fun r => { r with strictBlanks := some false })
  | "--label-pattern" => some (.valued fun v r => { r with labelPattern := some v })
  | "--gitignore" => some (.flag fun r => { r with heedRuleFiles := some true })
  | "--no-gitignore" => some (.flag fun r => { r with heedRuleFiles := some false })
  | "--json" => some (.flag fun r => { r with json := true })
  | "--summary" => some (.flag fun r => { r with summary := true })
  | "--verbose" => some (.flag fun r => { r with verbose := true })
  | _ => none

/-- The options that a program has for completion in a shell. -/
def completionOptions : List String := ["--install-completion", "--show-completion"]

/-- The names of the options of a check. -/
def checkOptions : List String :=
  ["--case", "--acronym", "--word-aware", "--blind-acronyms", "--strict-whitespace",
   "--no-strict-whitespace", "--label-pattern", "--gitignore", "--no-gitignore", "--json",
   "--summary", "--verbose", "--help"]

/-- The names of the options of the program. -/
def programOptions : List String := "--version" :: completionOptions ++ ["--help"]

/-- The names of the commands. -/
def commands : List String := ["check"]

/-- The argument is an option: a dash and more. -/
def isOption (s : String) : Bool := s.startsWith "-" && s.length > 1

/-- The name of an option and the value after its equals sign. -/
def splitOption (s : String) : String × Option String :=
  let cs := s.toList
  let name := cs.takeWhile (· != '=')
  match cs.drop name.length with
  | [] => (s, none)
  | _ :: value => (String.ofList name, some (String.ofList value))

/-- Reads one-letter options after a single dash. -/
def readLetters (r : CheckRequest) : List Char → Except UsageFault CheckRequest
  | [] => .ok r
  | c :: rest =>
    if c == 'v' then readLetters { r with verbose := true } rest
    else .error (.noOption (String.ofList ['-', c]) [] [])

/-- Reads arguments into a request and a list of plain arguments; `known` are the names of options.
-/
def readArguments (known : List String) (r : CheckRequest) (plain : List String) :
    List String → Except UsageFault (CheckRequest × List String)
  | [] => .ok (r, plain)
  | a :: rest =>
    if a == "--" then .ok (r, plain ++ rest)
    else if !isOption a then readArguments known r (plain ++ [a]) rest
    else
      let (name, value) := splitOption a
      match checkOption? name, value with
      | some (.flag f), none => readArguments known (f r) plain rest
      | some (.flag _), some _ => .error (.takesNoValue name)
      | some (.valued f), some v => readArguments known (f v r) plain rest
      | some (.valued f), none =>
        match rest with
        | [] => .error (.needsArgument name)
        | v :: rest => readArguments known (f v r) plain rest
      | none, _ =>
        if a.startsWith "--" then .error (.noOption name (closeNames name known) [])
        else
          match readLetters r (a.toList.drop 1) with
          | .error e => .error e
          | .ok r => readArguments known r plain rest

/-- Reads the arguments of a check with some known options. -/
def CheckRequest.readKnown (known arguments : List String) : Except UsageFault CheckRequest := do
  let (r, plain) ← readArguments known {} [] arguments
  match plain with
  | [] => return r
  | [p] => return { r with path := Path.ofText p }
  | _ :: extra => .error (.extraArguments extra)

/-- Reads the arguments of a program that does nothing but check. -/
def CheckRequest.read (arguments : List String) : Except UsageFault CheckRequest :=
  CheckRequest.readKnown (checkOptions ++ completionOptions) arguments

/-- What is asked of the program. -/
inductive Request
  /-- The version. -/
  | version
  /-- A check. -/
  | check (request : CheckRequest)
  deriving Repr, DecidableEq

/-- Reads the program's own options: whether the version is asked for, and the arguments after them.
-/
def readProgramOptions (version : Bool) : List String → Except UsageFault (Bool × List String)
  | [] => .ok (version, [])
  | a :: rest =>
    if a == "--" then .ok (version, rest)
    else if !isOption a then .ok (version, a :: rest)
    else
      match splitOption a with
      | ("--version", none) => readProgramOptions true rest
      | ("--version", some _) => .error (.takesNoValue "--version")
      | (name, _) =>
        if a.startsWith "--" then .error (.noOption name (closeNames name programOptions) [])
        else .error (.noOption (String.ofList (a.toList.take 2)) [] [])

/-- What becomes of a name that no command has. With a dash in front it is tried as an option. -/
def Request.ofUnknown (name : String) (rest : List String) : Except UsageFault Request :=
  let close := closeNames name commands
  match readProgramOptions false (name :: rest) with
  | .error (.noOption option options _) => .error (.noOption option options close)
  | .error e => .error e
  | .ok (true, _) => .ok .version
  | .ok (false, _) => .error (.noCommand name close)

/-- Reads the arguments of the program: its own options, a command and the arguments of that. -/
def Request.read (arguments : List String) : Except UsageFault Request := do
  let (asked, rest) ← readProgramOptions false arguments
  if asked then return .version
  else
    match rest with
    | [] => .error .missingCommand
    | name :: rest =>
      if name == "check" then (CheckRequest.readKnown checkOptions rest).map .check
      else Request.ofUnknown name rest

end LabelTally.Command
