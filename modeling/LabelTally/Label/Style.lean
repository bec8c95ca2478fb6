import LabelTally.Label.Acronym
import LabelTally.Label.Words
import LabelTally.Text.Quoted

/-!
# Case styles

The six styles a label can be required to have, and the conversion of a text to a style. The four
separated styles join words with a mark; the two joined ones capitalize words and put nothing
between them. A label is in a style when converting it changes nothing.
-/

namespace LabelTally.Label

open Text

/-- A case style. -/
inductive Style
  /-- `fooBarBaz` -/
  | camel
  /-- `FooBarBaz` -/
  | pascal
  /-- `foo_bar_baz` -/
  | snake
  /-- `FOO_BAR_BAZ` -/
  | screamingSnake
  /-- `foo-bar-baz` -/
  | kebab
  /-- `Foo-Bar-Baz` -/
  | train
  deriving Repr, DecidableEq

namespace Style

/-- All styles, in the order in which messages list them. -/
def all : List Style := [camel, pascal, snake, screamingSnake, kebab, train]

/-- The name of a style in settings. -/
def name : Style → String
  | camel => "camel"
  | pascal => "pascal"
  | snake => "snake"
  | screamingSnake => "screaming_snake"
  | kebab => "kebab"
  | train => "train"

/-- The name of a style, written in the style. -/
def sample : Style → String
  | camel => "camelCase"
  | pascal => "PascalCase"
  | snake => "snake_case"
  | screamingSnake => "SCREAMING_SNAKE_CASE"
  | kebab => "kebab-case"
  | train => "Train-Case"

/-- The spellings of styles, in lowercase letters without the word `case` at the end. -/
def spellings : List (String × Style) :=
  [("camel", camel), ("lowercamel", camel), ("pascal", pascal), ("uppercamel", pascal),
   ("snake", snake), ("screamingsnake", screamingSnake), ("uppersnake", screamingSnake),
   ("constant", screamingSnake), ("kebab", kebab), ("train", train)]

/-- A spelling without the word `case` at its end, unless it is that word. -/
def dropCase (key : List Char) : List Char :=
  let ending := "case".toList
  if ending.isSuffixOf key && key != ending then key.take (key.length - ending.length) else key

/-- The style that a text names: case, separators and a final word `case` do not matter. -/
def ofName? (text : String) : Option Style :=
  let letters := (lower text.toList).filter fun c => 'a' ≤ c && c ≤ 'z'
  spellings.lookup (String.ofList (dropCase letters))

/-- The refusal of a name that no style has. -/
def unknownMessage (text : String) : String :=
  "Unknown case style: " ++ quote text ++ " (expected one of " ++
    ", ".intercalate (all.map name) ++ ")"

end Style

/-- How acronyms are treated in the joined styles. -/
structure AcronymRule where
  /-- The acronyms. -/
  acronyms : List (List Char) := []
  /-- Only whole words are raised. -/
  wordAware : Bool := false
  deriving Repr, DecidableEq

/-- The words in the form they have in a joined style, before the first one is treated. -/
def caseWords (rule : AcronymRule) (words : List (List Char)) : List (List Char) :=
  if rule.wordAware && !rule.acronyms.isEmpty then
    let wanted := rule.acronyms.map lower
    words.map fun w => if wanted.contains w then upper w else capitalize w
  else words.map capitalize

/-- Words joined without separator. In a text that starts small the first word stays as it is. -/
def joinWords (startsSmall : Bool) (rule : AcronymRule) (words : List (List Char)) : List Char :=
  let cased := caseWords rule words
  let cased := if startsSmall then words.take 1 ++ cased.drop 1 else cased
  let joined := cased.flatten
  if rule.acronyms.isEmpty || rule.wordAware then joined else raiseAll rule.acronyms joined

/-- Words joined with a mark between neighbours. -/
def joinWith (mark : Char) (words : List (List Char)) : List Char :=
  (words.intersperse [mark]).flatten

/-- A joined style: adjacent one-letter words merge into a run of capitals that splits into fewer
words, so the text is built once more from its own words. -/
def joinTwice (startsSmall : Bool) (rule : AcronymRule) (text : List Char) : List Char :=
  let rule := { rule with acronyms := rule.acronyms.filter (!·.isEmpty) }
  let once := joinWords startsSmall rule (splitWords text)
  joinWords startsSmall rule (splitWords once)

/-- A text converted to a style. -/
def convert (style : Style) (rule : AcronymRule) (text : List Char) : List Char :=
  match style with
  | .camel => joinTwice true rule text
  | .pascal => joinTwice false rule text
  | .snake => joinWith '_' (splitWords text)
  | .screamingSnake => joinWith '_' ((splitWords text).map upper)
  | .kebab => joinWith '-' (splitWords text)
  | .train => joinWith '-' ((splitWords text).map capitalize)

/-- A text is in a style when conversion leaves it unchanged. -/
def inStyle (style : Style) (rule : AcronymRule) (text : List Char) : Bool :=
  convert style rule text == text

end LabelTally.Label
