import LabelTally.Report.Styled
import LabelTally.Text.Emoji.Replace
import LabelTally.Text.Wrap
import LabelTally.Value.Json

/-!
# Error lines

How a message is printed when the program gives up: as lines of text, where words in brackets are
kept as they are, a backslash before any other bracket is dropped and names of emoji are replaced,
or as a JSON object.
-/

namespace LabelTally.Report

/-- The character can follow the bracket of a tag. -/
def startsTag (c : Char) : Bool := c.isLower || c == '#' || c == '/' || c == '@'

/-- The tag that starts here: a bracket, a letter or mark, and all up to the next closing bracket.
-/
def tagAt? : List Char → Option (List Char)
  | '[' :: c :: rest =>
    if startsTag c then
      let body := rest.takeWhile fun d => d != '[' && d != ']'
      if (rest.drop body.length).head? == some ']' then some ('[' :: c :: body ++ [']']) else none
    else none
  | _ => none

/-- Drops backslashes before brackets. -/
def dropEscapes : List Char → List Char
  | '\\' :: '[' :: rest => '[' :: dropEscapes rest
  | c :: rest => c :: dropEscapes rest
  | [] => []

/-- The pieces of a message in which emoji are looked for on their own: tags, the backslashes before
them, and what stands between. `plain` holds the open piece, last character first; `fuel` bounds the
number of characters. -/
def piecesFrom (plain : List Char) : (fuel : Nat) → List Char → List (List Char)
  | 0, cs => [dropEscapes (plain.reverse ++ cs)]
  | _, [] => [dropEscapes plain.reverse]
  | fuel + 1, c :: rest =>
    let slashes := (c :: rest).takeWhile (· == '\\')
    match tagAt? ((c :: rest).drop slashes.length) with
    | some tag =>
      dropEscapes plain.reverse :: slashes :: tag ::
        piecesFrom [] fuel ((c :: rest).drop (slashes.length + tag.length))
    | none => piecesFrom (c :: plain) fuel rest

/-- The pieces of a message in which emoji are looked for on their own. -/
def pieces (cs : List Char) : List (List Char) := piecesFrom [] cs.length cs

/-- A single backslash at the end is doubled. -/
def closeEscape (cs : List Char) : List Char :=
  if ['\\'].isSuffixOf cs && !(['\\', '\\'].isSuffixOf cs) then cs ++ ['\\'] else cs

/-- The lines for a message on a console of a width. -/
def errorLine (width : Nat) (message : String) : String :=
  let body := (pieces (' ' :: closeEscape message.toList)).flatMap Text.replaceEmoji
  String.ofList (Text.wrap width ("error:".toList ++ Text.strip body) ++ ['\n'])

/-- The JSON object for a message. -/
def errorObject (message : String) : String :=
  (Value.table [("error", .text message)]).printJson

end LabelTally.Report
