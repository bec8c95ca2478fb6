import LabelTally.Comment.Span
import LabelTally.Decimal.Digits
import LabelTally.Text.Blank
import LabelTally.Text.Utf8

/-!
# Arguments of an annotation

A marker is followed by `(label)` or `(label, count)`. The label runs to the first comma or closing
parenthesis and the count to the first closing parenthesis; one space after the comma belongs to
neither. The text of an argument is its decoded bytes, its value the text without blanks around it.
A count is a run of ASCII digits denoting at most 65535.
-/

namespace LabelTally.Comment

open Decimal Text

/-- The byte `(`. -/
def openParen : UInt8 := 40

/-- The byte `)`. -/
def closeParen : UInt8 := 41

/-- The byte `,`. -/
def comma : UInt8 := 44

/-- The byte of a space. -/
def space : UInt8 := 32

/-- The bytes of a second argument. -/
structure CountBytes where
  /-- A space stands between the comma and the argument. -/
  spaced : Bool
  /-- The argument. -/
  raw : List UInt8
  deriving Repr, DecidableEq

/-- The bytes of an argument list. -/
structure ArgumentBytes where
  /-- The first argument. -/
  label : List UInt8
  /-- The second argument, if there is a comma. -/
  count : Option CountBytes
  deriving Repr, DecidableEq

/-- The byte does not end a label. -/
def inLabel (b : UInt8) : Bool := b != comma && b != closeParen

/-- Reads a second argument after its comma. -/
def CountBytes.read (bytes : List UInt8) : Option CountBytes :=
  let spaced := bytes.head? == some space
  let body := if spaced then bytes.drop 1 else bytes
  if body.contains closeParen then some ⟨spaced, body.takeWhile (· != closeParen)⟩ else none

/-- Reads the argument list at the start of the bytes. -/
def ArgumentBytes.read : List UInt8 → Option ArgumentBytes
  | [] => none
  | b :: rest =>
    if b != openParen then none
    else
      let label := rest.takeWhile inLabel
      match rest.dropWhile inLabel with
      | [] => none
      | b' :: after =>
        if b' == closeParen then some ⟨label, none⟩
        else (CountBytes.read after).map fun c => ⟨label, some c⟩

/-- The bytes of a second argument with its comma and space. -/
def CountBytes.write (c : CountBytes) : List UInt8 :=
  comma :: (if c.spaced then [space] else []) ++ c.raw

/-- The bytes that an argument list is read from. -/
def ArgumentBytes.write (a : ArgumentBytes) : List UInt8 :=
  openParen :: a.label ++ (match a.count with
    | some c => c.write
    | none => []) ++ [closeParen]

/-- The number of bytes of a second argument with its comma and space. -/
def CountBytes.size (c : CountBytes) : Nat := 1 + (if c.spaced then 1 else 0) + c.raw.length

/-- The number of bytes of an argument list, both parentheses included. -/
def ArgumentBytes.size (a : ArgumentBytes) : Nat :=
  2 + a.label.length + (match a.count with
    | some c => c.size
    | none => 0)

/-- One argument. -/
structure Arg (α : Type) where
  /-- What the argument denotes. -/
  value : α
  /-- Its decoded text, blanks included. -/
  text : String
  /-- The bytes it was read from. -/
  span : Span
  deriving Repr, DecidableEq

/-- The text of an argument without blanks around it. -/
def Arg.trimmed {α : Type} (a : Arg α) : String := String.ofList (trim a.text.toList)

/-- The argument has blanks around it. -/
def Arg.hasExtraBlanks {α : Type} (a : Arg α) : Bool := a.trimmed != a.text

/-- The arguments of a valid annotation. -/
structure Args where
  /-- The label. -/
  label : Arg String
  /-- The count, if one is given. -/
  count : Option (Arg Nat)
  /-- The length of the argument list, counted from where it was looked for. -/
  length : Int
  deriving Repr, DecidableEq

/-- The count, or the default where none is given. -/
def Args.countOr (a : Args) (default : Int) : Int :=
  match a.count with
  | some c => c.value
  | none => default

/-- What stands after a marker. -/
inductive Outcome
  /-- A valid argument list. -/
  | valid (args : Args)
  /-- No argument list, or one without a label. -/
  | malformed
  /-- An argument list whose second argument is no count. -/
  | invalidCount (span : Span)
  deriving Repr, DecidableEq

/-- The count assumed where none is given. -/
def defaultCount : Int := 2

/-- The largest count. -/
def maxCount : Nat := 65535

/-- Reads a count: none if the text is no run of digits or denotes too large a number. -/
def readCount (cs : List Char) : Except TooManyDigits (Option Nat) :=
  if !isDigitRun cs then .ok none
  else (readDigits cs).map fun n => if n > maxCount then none else some n

/-- The meaning of an argument list whose opening parenthesis has the offset `start`. -/
def ArgumentBytes.interpret (a : ArgumentBytes) (start : Int) : Except TooManyDigits Outcome := do
  let labelText := Utf8.decode a.label
  let labelValue := trim labelText
  let labelStop := start + 1 + a.label.length
  let label : Arg String :=
    ⟨String.ofList labelValue, String.ofList labelText, start + 1, labelStop⟩
  if labelValue.isEmpty then return .malformed
  match a.count with
  | none => return .valid ⟨label, none, a.size⟩
  | some c =>
    let countStart := labelStop + 1 + (if c.spaced then 1 else 0)
    let span : Span := ⟨countStart, countStart + c.raw.length⟩
    let countText := Utf8.decode c.raw
    match ← readCount (trim countText) with
    | none => return .invalidCount span
    | some n => return .valid ⟨label, some ⟨n, String.ofList countText, span⟩, a.size⟩

/-- What stands at the start of bytes that begin at an offset. -/
def Outcome.read (bytes : List UInt8) (start : Int) : Except TooManyDigits Outcome :=
  match ArgumentBytes.read bytes with
  | none => .ok .malformed
  | some a => a.interpret start

/-- What stands at a position of a line that begins at an offset. A position outside the line is
moved to its nearer end, but the length of an argument list still counts from the given position. -/
def Outcome.readAt (line : List UInt8) (pos lineOffset : Int) : Except TooManyDigits Outcome := do
  let place := min (max pos 0) line.length
  match ← Outcome.read (line.drop place.toNat) (lineOffset + place) with
  | .valid args => return .valid { args with length := args.length + (place - pos) }
  | other => return other

end LabelTally.Comment
