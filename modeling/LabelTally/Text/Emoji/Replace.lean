import LabelTally.Text.Blank
import LabelTally.Text.Casing
import LabelTally.Text.Emoji.Codes

/-!
# Emoji in messages

A name between colons stands for an emoji. The name may end in a wish for the form of the sign, and
its case does not matter. A name that there is none of stays with its colons, and so does no name at
all.
-/

namespace LabelTally.Text

/-- The emoji with a name in a list of names and emoji by turns. -/
def lookupByTurns (name : String) : List String → Option String
  | n :: emoji :: rest => if n == name then some emoji else lookupByTurns name rest
  | _ => none

/-- The emoji with a name in small letters. -/
def emojiNamed? (name : List Char) : Option (List Char) :=
  (emojiCodes.findSome? fun line => lookupByTurns (String.ofList name) (line.splitOn " ")).map
    String.toList

/-- The forms that a name can ask for at its end, with the selectors for them. -/
def emojiForms : List (List Char × Char) :=
  [("-emoji".toList, '\ufe0f'), ("-text".toList, '\ufe0e')]

/-- What a name between colons stands for. -/
def emojiOf? (name : List Char) : Option (List Char) :=
  match emojiForms.find? fun form => form.1.isSuffixOf name with
  | some (ending, selector) =>
    (emojiNamed? (lower (name.take (name.length - ending.length)))).map (· ++ [selector])
  | none => emojiNamed? (lower name)

/-- The text with emoji for their names; `fuel` bounds the number of its characters. -/
def replaceEmojiFrom : (fuel : Nat) → List Char → List Char
  | 0, cs => cs
  | _, [] => []
  | fuel + 1, c :: rest =>
    if c != ':' then c :: replaceEmojiFrom fuel rest
    else
      let name := rest.takeWhile fun d => d != ':' && !isBlank d
      match rest.drop name.length with
      | ':' :: after =>
        ((emojiOf? name).getD (':' :: name ++ [':'])) ++ replaceEmojiFrom fuel after
      | _ => c :: replaceEmojiFrom fuel rest

/-- The text with emoji for their names. -/
def replaceEmoji (cs : List Char) : List Char := replaceEmojiFrom cs.length cs

end LabelTally.Text
