import LabelTally.Pattern.Token
import LabelTally.Text.Name

/-!
# Escapes and classes

What a backslash and the characters after it stand for, and classes between brackets, where an
escape can also be a bound of a range.
-/

namespace LabelTally.Pattern

/-- What an escape inside or outside a class can stand for. -/
inductive Escape
  /-- A character by its code. -/
  | code (n : Nat)
  /-- A kind of characters. -/
  | kind (k : CharKind) (negated : Bool)
  /-- A condition on the position. -/
  | anchor (a : Anchor)
  /-- A reference to a group. -/
  | reference (index : Nat)

/-- The control characters that have an escape of their own. -/
def controlEscape : Char → Option Nat
  | 'a' => some 7
  | 'f' => some 12
  | 'n' => some 10
  | 'r' => some 13
  | 't' => some 9
  | 'v' => some 11
  | '\\' => some 92
  | _ => none

/-- The kinds that have an escape. -/
def kindEscape : Char → Option (CharKind × Bool)
  | 'd' => some (.digit, false)
  | 'D' => some (.digit, true)
  | 's' => some (.space, false)
  | 'S' => some (.space, true)
  | 'w' => some (.word, false)
  | 'W' => some (.word, true)
  | _ => none

/-- A numeric escape of a fixed number of hexadecimal digits. -/
def hexEscape (c : Char) (digits : Nat) : Read Nat := do
  let ds ← takeWhile isHexDigit digits
  let text := String.ofList ('\\' :: c :: ds)
  if ds.length != digits then refuse (.incompleteEscape text) text.length
  else
    let n := digitsValue 16 ds
    if n > 0x10ffff then refuse (.badEscape text) text.length else return n

/-- The escapes that mean the same inside and outside a class. -/
def commonEscape (c : Char) : Read (Option Escape) := do
  if c == 'x' then return some (.code (← hexEscape c 2))
  else if c == 'u' then return some (.code (← hexEscape c 4))
  else if c == 'U' then return some (.code (← hexEscape c 8))
  else if c == 'N' then
    if !(← accept '\x7b') then refuse .missingBrace 0
    else
      let n ← name '\x7d' "character name"
      match Text.codeOfName? n.toList with
      | some code => return some (.code code)
      | none => refuse (.unknownCharacter n) (n.length + 4)
  else return none

/-- An escape that stands for its own character, unless it is a letter or a digit. -/
def plainEscape (c : Char) : Read Escape :=
  if c.isAlphanum then refuse (.badEscape (String.ofList ['\\', c])) 2
  else return .code c.toNat

/-- Reads the rest of an escape inside a class. -/
def readClassEscape (c : Char) : Read Escape := do
  if c == 'b' then return .code 8
  match controlEscape c, kindEscape c with
  | some n, _ => return .code n
  | none, some (k, negated) => return .kind k negated
  | none, none =>
    match ← commonEscape c with
    | some e => return e
    | none =>
      if isOctalDigit c then
        let ds := c :: (← takeWhile isOctalDigit 2)
        let n := digitsValue 8 ds
        let text := String.ofList ('\\' :: ds)
        if n > 0xff then refuse (.octalTooLarge text) text.length else return .code n
      else plainEscape c

/-- Reads the rest of an escape that starts with a digit other than zero: three octal digits are a
code, anything else refers to a group. -/
def readNumberEscape (c : Char) : Read Escape := do
  let second ← takeWhile Char.isDigit 1
  let third ←
    if isOctalDigit c && !second.isEmpty && second.all isOctalDigit then takeWhile isOctalDigit 1
    else pure []
  let ds := c :: second ++ third
  let text := String.ofList ('\\' :: ds)
  if !third.isEmpty then
    let n := digitsValue 8 ds
    if n > 0xff then refuse (.octalTooLarge text) text.length else return .code n
  else
    let index := digitsValue 10 ds
    let s ← get
    if index < s.groups.size then
      if !isClosed s index then refuse .openGroup text.length
      else
        checkBehind index
        return .reference index
    else refuse (.noGroup index) (text.length - 1)

/-- Reads the rest of an escape outside a class. -/
def readEscape (c : Char) : Read Escape := do
  let ascii := (← get).flags.ascii
  if c == 'A' then return .anchor .start
  if c == 'Z' then return .anchor .textEnd
  if c == 'b' then return .anchor (.boundary ascii)
  if c == 'B' then return .anchor (.notBoundary ascii)
  match kindEscape c, controlEscape c with
  | some (k, negated), _ => return .kind k negated
  | none, some n => return .code n
  | none, none =>
    match ← commonEscape c with
    | some e => return e
    | none =>
      if c == '0' then return .code (digitsValue 8 (c :: (← takeWhile isOctalDigit 2)))
      else if c.isDigit then readNumberEscape c
      else plainEscape c

/-- Reads one bound of a class item. -/
def readBound (t : Token) : Read Escape :=
  match t with
  | .char c => return .code c.toNat
  | .escape c => readClassEscape c
  | .dangling => refuse .escapeAtEnd 1

/-- The class item of an escape. -/
def Escape.item (ascii : Bool) : Escape → ClassItem
  | .code n => .code n
  | .kind k negated => .kind k negated ascii
  | _ => .code 0

/-- Reads the items of a class up to its end; `start` is the position of its opening bracket. -/
def readItems (start : Nat) : (fuel : Nat) → List ClassItem → Read (List ClassItem)
  | 0, sofar => return sofar
  | fuel + 1, sofar => do
    let ascii := (← get).flags.ascii
    match ← take with
    | none => throw ⟨.unterminatedClass, some start⟩
    | some this =>
      if this == .char ']' && !sofar.isEmpty then return sofar
      else
        let first ← readBound this
        if ← accept '-' then
          match ← take with
          | none => throw ⟨.unterminatedClass, some start⟩
          | some that =>
            if that == .char ']' then
              return sofar ++ [first.item ascii, .code 45]
            else
              let second ← readBound that
              let badRange := Problem.badRange this.text that.text
              let back := this.text.length + 1 + that.text.length
              match first, second with
              | .code least, .code most =>
                if most < least then refuse badRange back
                else readItems start fuel (sofar ++ [.range least most])
              | _, _ => refuse badRange back
        else readItems start fuel (sofar ++ [first.item ascii])

/-- The single character of a class. A class of one code is that character, or any other. -/
def classSingle (negated : Bool) (fold : Fold) (items : List ClassItem) : Single :=
  match items.eraseDups with
  | [.code n] => if negated then .notLiteral fold n else .literal fold n
  | items => .oneOf { negated, fold, items }

/-- Reads a class after its opening bracket. -/
def readClass : Read Single := do
  let start := (← get).pos - 1
  let negated ← accept '^'
  let items ← readItems start ((← get).ahead.length + 1) []
  return classSingle negated (← get).flags.fold items

end LabelTally.Pattern
