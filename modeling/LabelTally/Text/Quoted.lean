import LabelTally.Text.Letter
import LabelTally.Text.Property.Unprintable

/-!
# Quoted texts

Messages quote texts and byte strings so that every character is visible: the quote mark is the
apostrophe unless only that mark occurs inside, and what cannot be shown is written by its code.
-/

namespace LabelTally.Text

/-- The character has a visible form, the plain space included. -/
def isPrintable (c : Char) : Bool :=
  classify (fun c => 32 ≤ c.toNat && c.toNat < 127) [] c ||
    (!isAscii c && !unprintableRuns.contains c.toNat)

/-- A number in hexadecimal, padded with zeros to a width. -/
def hex (width n : Nat) : List Char :=
  let ds := Nat.toDigits 16 n
  List.replicate (width - ds.length) '0' ++ ds

/-- The written form of one character between quote marks. -/
def quoteChar (mark c : Char) : List Char :=
  if c == '\\' || c == mark then ['\\', c]
  else if c == '\n' then ['\\', 'n']
  else if c == '\r' then ['\\', 'r']
  else if c == '\t' then ['\\', 't']
  else if isPrintable c then [c]
  else if c.toNat < 0x100 then '\\' :: 'x' :: hex 2 c.toNat
  else if c.toNat < 0x10000 then '\\' :: 'u' :: hex 4 c.toNat
  else '\\' :: 'U' :: hex 8 c.toNat

/-- The quote mark for a text: the apostrophe, unless the text has one and no double quote. -/
def quoteMark (cs : List Char) : Char :=
  if cs.contains '\x27' && !cs.contains '"' then '"' else '\x27'

/-- The quoted form of a text. -/
def quote (s : String) : String :=
  let cs := s.toList
  let mark := quoteMark cs
  String.ofList (mark :: cs.flatMap (quoteChar mark) ++ [mark])

/-- The written form of one byte between quote marks. -/
def quoteByte (mark : Char) (b : UInt8) : List Char :=
  let c := Char.ofNat b.toNat
  if isAscii c then quoteChar mark c else '\\' :: 'x' :: hex 2 b.toNat

/-- The quoted form of a byte string, which carries the letter `b` in front. -/
def quoteBytes (bytes : List UInt8) : String :=
  let mark := quoteMark (bytes.map fun b => Char.ofNat b.toNat)
  String.ofList ('b' :: mark :: bytes.flatMap (quoteByte mark) ++ [mark])

end LabelTally.Text
