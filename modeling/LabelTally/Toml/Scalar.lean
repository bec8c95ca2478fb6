import LabelTally.Decimal.Digits
import LabelTally.Value

/-!
# Scalars of a settings file

Texts, numbers, dates and times. Each reader takes the characters that are left and returns a value
with what is left after it.
-/

namespace LabelTally.Toml

/-- Why a document cannot be read. -/
inductive Fault
  /-- It breaks a rule of the format. -/
  | malformed
  /-- It holds a number with too many digits. -/
  | tooManyDigits (e : Decimal.TooManyDigits)
  deriving Repr, DecidableEq

/-- A control character. -/
def isControl (c : Char) : Bool := c.toNat < 32 || c.toNat == 127

/-- A character that cannot stand in a text or a comment; line feeds can in texts of several lines.
-/
def isIllegal (severalLines : Bool) (c : Char) : Bool :=
  isControl c && c != '\t' && !(severalLines && c == '\n')

/-- A space or a tab. -/
def isSpace (c : Char) : Bool := c == ' ' || c == '\t'

/-- Leaves out spaces and tabs. -/
def skipSpace (cs : List Char) : List Char := cs.dropWhile isSpace

/-- The value of a hexadecimal digit. -/
def hexValue? (c : Char) : Option Nat :=
  if c.isDigit then some (c.toNat - 48)
  else if 'a' ≤ c && c ≤ 'f' then some (c.toNat - 87)
  else if 'A' ≤ c && c ≤ 'F' then some (c.toNat - 55)
  else none

/-- Reads a character given by so many hexadecimal digits. -/
def readCode (count : Nat) (cs : List Char) : Except Fault (List Char × List Char) :=
  let digits := cs.take count
  match digits.mapM hexValue? with
  | none => .error .malformed
  | some values =>
    let code := values.foldl (fun n d => n * 16 + d) 0
    if digits.length == count && (code < 0xd800 || (0xdfff < code && code < 0x110000)) then
      .ok ([Char.ofNat code], cs.drop count)
    else .error .malformed

/-- The characters that a letter after a backslash stands for. -/
def escapes : List (Char × Char) :=
  [('b', Char.ofNat 8), ('t', '\t'), ('n', '\n'), ('f', Char.ofNat 12), ('r', '\r'), ('"', '"'),
   ('\\', '\\')]

/-- Reads what follows a backslash. In a text of several lines a backslash before a line end takes
away all blanks that follow. -/
def readEscape (severalLines : Bool) : List Char → Except Fault (List Char × List Char)
  | [] => .error .malformed
  | c :: rest =>
    if severalLines && (c == ' ' || c == '\t' || c == '\n') then
      let after := if c == '\n' then c :: rest else skipSpace rest
      match after with
      | [] => .ok ([], [])
      | d :: rest =>
        if d == '\n' then .ok ([], rest.dropWhile fun e => isSpace e || e == '\n')
        else .error .malformed
    else if c == 'u' then readCode 4 rest
    else if c == 'U' then readCode 8 rest
    else
      match escapes.lookup c with
      | some d => .ok ([d], rest)
      | none => .error .malformed

/-- Reads the rest of a text between double quotes; `fuel` bounds the number of its parts. -/
def readQuoted (severalLines : Bool) : (fuel : Nat) → List Char →
    Except Fault (List Char × List Char)
  | 0, _ => .error .malformed
  | _, [] => .error .malformed
  | fuel + 1, c :: rest =>
    if c == '"' && (!severalLines || rest.take 2 == ['"', '"']) then
      .ok ([], if severalLines then rest.drop 2 else rest)
    else if c == '\\' then do
      let (here, rest) ← readEscape severalLines rest
      let (more, rest) ← readQuoted severalLines fuel rest
      return (here ++ more, rest)
    else if isIllegal severalLines c then .error .malformed
    else do
      let (more, rest) ← readQuoted severalLines fuel rest
      return (c :: more, rest)

/-- Reads the rest of a text between apostrophes on one line. -/
def readPlain (cs : List Char) : Except Fault (List Char × List Char) :=
  let body := cs.takeWhile (· != '\x27')
  match cs.drop body.length with
  | [] => .error .malformed
  | _ :: rest => if body.any (isIllegal false) then .error .malformed else .ok (body, rest)

/-- Reads the rest of a text of several lines between apostrophes. -/
def readPlainLines : List Char → Except Fault (List Char × List Char)
  | [] => .error .malformed
  | c :: rest =>
    if c == '\x27' && rest.take 2 == ['\x27', '\x27'] then .ok ([], rest.drop 2)
    else if isIllegal true c then .error .malformed
    else do
      let (more, after) ← readPlainLines rest
      return (c :: more, after)

/-- Up to two quotes in front of the closing ones belong to a text of several lines. -/
def takeExtra (mark : Char) (text : List Char) (rest : List Char) : List Char × List Char :=
  let extra := (rest.take 2).takeWhile (· == mark)
  (text ++ extra, rest.drop extra.length)

/-- Reads a text, if one starts here. -/
def readText (cs : List Char) : Option (Except Fault (List Char × List Char)) :=
  let firstLine (rest : List Char) : List Char :=
    match rest with
    | '\n' :: after => after
    | _ => rest
  match cs with
  | '"' :: '"' :: '"' :: rest => some do
    let (text, rest) ← readQuoted true (rest.length + 1) (firstLine rest)
    return takeExtra '"' text rest
  | '"' :: rest => some (readQuoted false (rest.length + 1) rest)
  | '\x27' :: '\x27' :: '\x27' :: rest => some do
    let (text, rest) ← readPlainLines (firstLine rest)
    return takeExtra '\x27' text rest
  | '\x27' :: rest => some (readPlain rest)
  | _ => none

/-- The longest run of digits in which single low lines stand between digits, and what follows. -/
def digitRun (isDigit : Char → Bool) : List Char → List Char × List Char
  | [] => ([], [])
  | c :: '_' :: d :: rest =>
    if !isDigit c then ([], c :: '_' :: d :: rest)
    else if !isDigit d then ([c], '_' :: d :: rest)
    else
      let (more, after) := digitRun isDigit (d :: rest)
      (c :: more, after)
  | c :: rest =>
    if !isDigit c then ([], c :: rest)
    else
      let (more, after) := digitRun isDigit rest
      (c :: more, after)

/-- Reads a number in base 16, 8 or 2, if one starts here. -/
def readBased (cs : List Char) : Option (Int × List Char) :=
  let read (base : Nat) (isDigit : Char → Bool) (rest : List Char) : Option (Int × List Char) :=
    match digitRun isDigit rest with
    | ([], _) => none
    | (digits, after) =>
      some (((digits.filterMap hexValue?).foldl (fun n d => n * base + d) 0 : Nat), after)
  match cs with
  | '0' :: 'x' :: rest => read 16 (fun c => (hexValue? c).isSome) rest
  | '0' :: 'b' :: rest => read 2 (fun c => c == '0' || c == '1') rest
  | '0' :: 'o' :: rest => read 8 (fun c => '0' ≤ c && c ≤ '7') rest
  | _ => none

/-- The number with these digits and this power of ten. Powers that lead out of the range of numbers
are cut off first. -/
def scientific (digits : List Char) (exponent : Int) : Float :=
  let m := Decimal.digitsValue digits
  let size : Int := (digits.dropWhile (· == '0')).length
  if m == 0 || size + exponent < -400 then 0
  else if size + exponent > 400 then 1 / 0
  else Float.ofScientific m (exponent < 0) exponent.natAbs

/-- The digits after a decimal point, if there are any. -/
def readFraction (cs : List Char) : List Char × List Char :=
  match cs with
  | '.' :: rest =>
    match digitRun Char.isDigit rest with
    | ([], _) => ([], cs)
    | found => found
  | _ => ([], cs)

/-- A power of ten, if there is one. -/
def readExponent (cs : List Char) : Option Int × List Char :=
  match cs with
  | e :: rest =>
    if e == 'e' || e == 'E' then
      let negative := rest.head? == some '-'
      let body := if negative || rest.head? == some '+' then rest.drop 1 else rest
      match digitRun Char.isDigit body with
      | ([], _) => (none, cs)
      | (digits, after) =>
        let n : Int := Decimal.digitsValue digits
        (some (if negative then -n else n), after)
    else (none, cs)
  | [] => (none, cs)

/-- Reads a number in base ten, if one starts here. -/
def readDecimal (cs : List Char) : Option (Except Fault (Value × List Char)) :=
  let negative := cs.head? == some '-'
  let body := if negative || cs.head? == some '+' then cs.drop 1 else cs
  let (whole, rest) := match body with
    | '0' :: rest => (['0'], rest)
    | _ => digitRun Char.isDigit body
  if whole.isEmpty then none
  else
    let (fraction, rest) := readFraction rest
    let (exponent, rest) := readExponent rest
    if fraction.isEmpty && exponent.isNone then
      match Decimal.readDigits whole with
      | .error e => some (.error (.tooManyDigits e))
      | .ok n => some (.ok (.int (if negative then -n else n), rest))
    else
      let x := scientific (whole ++ fraction) (exponent.getD 0 - fraction.length)
      some (.ok (.float (if negative then -x else x), rest))

/-- Reads one of the numbers that are written as words, if one starts here. -/
def readNumberWord (cs : List Char) : Option (Value × List Char) :=
  let negative := cs.head? == some '-'
  let body := if negative || cs.head? == some '+' then cs.drop 1 else cs
  let word := String.ofList (body.take 3)
  let infinity : Float := 1 / 0
  if word == "inf" then some (.float (if negative then -infinity else infinity), body.drop 3)
  else if word == "nan" then some (.float (0 / 0), body.drop 3)
  else none

/-- A number of exactly so many digits between two bounds. -/
def readField (count least most : Nat) (cs : List Char) : Option (Nat × List Char) :=
  let digits := cs.take count
  if digits.length == count && digits.all Char.isDigit then
    let n := Decimal.digitsValue digits
    if least ≤ n && n ≤ most then some (n, cs.drop count) else none
  else none

/-- Drops a character. -/
def dropMark (mark : Char) : List Char → Option (List Char)
  | c :: rest => if c == mark then some rest else none
  | [] => none

/-- Reads a date. -/
def readDate (cs : List Char) : Option (Date × List Char) := do
  let (year, cs) ← readField 4 0 9999 cs
  let (month, cs) ← readField 2 1 12 (← dropMark '-' cs)
  let (day, cs) ← readField 2 1 31 (← dropMark '-' cs)
  return (⟨year, month, day⟩, cs)

/-- Parts of a second, to six places. -/
def readMicros (cs : List Char) : Nat × List Char :=
  match cs with
  | '.' :: rest =>
    let digits := rest.takeWhile Char.isDigit
    if digits.isEmpty then (0, cs)
    else
      let six := digits.take 6
      (Decimal.digitsValue (six ++ List.replicate (6 - six.length) '0'), rest.drop digits.length)
  | _ => (0, cs)

/-- Reads a time of day. -/
def readTime (cs : List Char) : Option (TimeOfDay × List Char) := do
  let (hour, cs) ← readField 2 0 23 cs
  let (minute, cs) ← readField 2 0 59 (← dropMark ':' cs)
  let (second, cs) ← readField 2 0 59 (← dropMark ':' cs)
  let (micros, cs) := readMicros cs
  return (⟨hour, minute, second, micros⟩, cs)

/-- Reads an offset from universal time, in minutes. -/
def readOffset (cs : List Char) : Option (Int × List Char) :=
  match cs with
  | c :: rest =>
    if c == 'Z' || c == 'z' then some (0, rest)
    else if c == '+' || c == '-' then do
      let (hours, rest) ← readField 2 0 23 rest
      let (minutes, rest) ← readField 2 0 59 (← dropMark ':' rest)
      let total : Int := hours * 60 + minutes
      return (if c == '-' then -total else total, rest)
    else none
  | [] => none

/-- The year has a 29th of February. -/
def isLeapYear (year : Nat) : Bool := year % 4 == 0 && (year % 100 != 0 || year % 400 == 0)

/-- The number of days of a month. -/
def daysOf (year month : Nat) : Nat :=
  if month == 2 then (if isLeapYear year then 29 else 28)
  else if [4, 6, 9, 11].contains month then 30
  else 31

/-- The date is in the calendar. -/
def isInCalendar (d : Date) : Bool := 1 ≤ d.year && d.day ≤ daysOf d.year d.month

/-- Reads a date, with a time of day if one follows. -/
def readMoment (cs : List Char) : Option (Except Fault (Value × List Char)) :=
  match readDate cs with
  | none => none
  | some (d, rest) =>
    if !isInCalendar d then some (.error .malformed)
    else
      let timed := match rest with
        | c :: after => if c == 'T' || c == 't' || c == ' ' then readTime after else none
        | [] => none
      match timed with
      | none => some (.ok (.date d, rest))
      | some (t, rest) =>
        match readOffset rest with
        | some (offset, rest) => some (.ok (.moment d t (some offset), rest))
        | none => some (.ok (.moment d t none, rest))

/-- Reads a value that holds no others. -/
def readScalar (cs : List Char) : Except Fault (Value × List Char) :=
  match readText cs with
  | some found => found.map fun (text, rest) => (.text (String.ofList text), rest)
  | none =>
    if cs.take 4 == "true".toList then .ok (.bool true, cs.drop 4)
    else if cs.take 5 == "false".toList then .ok (.bool false, cs.drop 5)
    else
      match readMoment cs with
      | some found => found
      | none =>
        match readTime cs with
        | some (t, rest) => .ok (.time t, rest)
        | none =>
          match readBased cs with
          | some (n, rest) => .ok (.int n, rest)
          | none =>
            match readDecimal cs with
            | some found => found
            | none =>
              match readNumberWord cs with
              | some found => .ok found
              | none => .error .malformed

end LabelTally.Toml
