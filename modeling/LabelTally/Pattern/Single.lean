import LabelTally.Pattern.Basic

/-!
# Single characters of patterns

Which characters a class or a literal accepts. Without regard to case a character is lowered and
then compared with the lowered codes and with the letters that share an uppercase form with them.
Classes keep their codes beyond the basic plane as they are written, so a capital that is listed
there alone is never met by a lowered character, while a range there is compared in both cases.
-/

namespace LabelTally

/-- The character is of a kind. -/
def CharKind.holds (k : CharKind) (ascii : Bool) (c : Char) : Bool :=
  match k with
  | .digit => if ascii then c.isDigit else Text.isDecimal c
  | .space => Text.isBlank c && (!ascii || (Text.isAscii c && c.toNat < 28) || c == ' ')
  | .word => Text.isWordChar c && (!ascii || Text.isAscii c)

/-- The last code of the basic plane. -/
def basicPlaneEnd : Nat := 0xffff

/-- A code that no character has. -/
def isSurrogate (code : Nat) : Bool := 0xd800 ≤ code && code ≤ 0xdfff

/-- A code in lower case, as far as a fold knows cases. -/
def Fold.lowerCode (f : Fold) (code : Nat) : Nat :=
  match f with
  | .exact => code
  | .ascii => if 65 ≤ code && code ≤ 90 then code + 32 else code
  | .full => if isSurrogate code then code else (Text.lowerSimple (Char.ofNat code)).toNat

/-- The first character of the uppercase form of a code. -/
def upperCode (code : Nat) : Nat :=
  if isSurrogate code then code
  else match Text.upperChar (Char.ofNat code) with
    | [] => code
    | c :: _ => c.toNat

/-- A code with another form under a fold. -/
def Fold.isCased (f : Fold) (code : Nat) : Bool :=
  match f with
  | .exact => false
  | .ascii => (65 ≤ code && code ≤ 90) || (97 ≤ code && code ≤ 122)
  | .full => f.lowerCode code != code || upperCode code != code

/-- A lowered code and the others that share an uppercase form with it. -/
def Fold.letters (f : Fold) (code : Nat) : List Nat :=
  match f with
  | .full => (Text.sharedUppercase.find? (·.contains code)).getD [code]
  | _ => [code]

/-- The codes whose single-character lowercase form is a given code. -/
def lowerPreimages (code : Nat) : List Nat :=
  (if (Text.lowerSimple (Char.ofNat code)).toNat == code then [code] else []) ++
    (if 97 ≤ code && code ≤ 122 then [code - 32] else []) ++
    (if code == 0x69 then [0x130] else []) ++
    Text.lowerShifts.filterMap fun s =>
      let source := (code - s.delta : Int).toNat
      if (Text.Run.mk s.first s.last s.step).contains source then some source else none

/-- The codes that become a lowered code under a fold. -/
def Fold.preimages (f : Fold) (lowered : Nat) : List Nat :=
  match f with
  | .exact => [lowered]
  | .ascii =>
    if 97 ≤ lowered && lowered ≤ 122 then [lowered, lowered - 32]
    else if 65 ≤ lowered && lowered ≤ 90 then []
    else [lowered]
  | .full => lowerPreimages lowered

/-- The codes of a run that have another form under a fold. The runs of case mappings are looked
through instead of the run itself. -/
def Fold.anyCased (f : Fold) (least most : Nat) : Bool :=
  let meets (first last step : Nat) : Bool :=
    let start := if least ≤ first then first else first + (least - first + step - 1) / step * step
    start ≤ last && start ≤ most
  let ascii := meets 65 90 1 || meets 97 122 1
  match f with
  | .exact => false
  | .ascii => ascii
  | .full =>
    ascii || meets 0x130 0x130 1 ||
      Text.lowerShifts.any (fun s => meets s.first s.last s.step) ||
      Text.upperShifts.any (fun s => meets s.first s.last s.step) ||
      Text.upperExpansions.any (fun e => least ≤ e.1 && e.1 ≤ most)

/-- An item that depends on case under a fold. Codes beyond the basic plane count as such. -/
def ClassItem.isCased (f : Fold) : ClassItem → Bool
  | .code n => n > basicPlaneEnd || f.isCased n
  | .range least most => most > basicPlaneEnd || f.anyCased least most
  | .kind _ _ _ => false

/-- A character as it is belongs to an item. -/
def ClassItem.holds (c : Char) : ClassItem → Bool
  | .code n => c.toNat == n
  | .range least most => least ≤ c.toNat && c.toNat ≤ most
  | .kind k negated ascii => k.holds ascii c != negated

/-- A lowered character belongs to an item without regard to case; `forms` are the codes of the
basic plane that agree with it. -/
def ClassItem.holdsLowered (lowered : Nat) (forms : List Nat) : ClassItem → Bool
  | .code n => if n > basicPlaneEnd then lowered == n else forms.contains n
  | .range least most =>
    forms.any (fun n => least ≤ n && n ≤ most) ||
      (most > basicPlaneEnd &&
        ((least ≤ lowered && lowered ≤ most) ||
          (least ≤ upperCode lowered && upperCode lowered ≤ most)))
  | .kind k negated ascii => k.holds ascii (Char.ofNat lowered) != negated

/-- A class in which some item depends on case. -/
def CharClass.isCased (s : CharClass) : Bool :=
  s.fold != .exact && s.items.any (·.isCased s.fold)

/-- Membership of a character in a class. -/
def CharClass.contains (s : CharClass) (c : Char) : Bool :=
  let inside :=
    if s.isCased then
      let lowered := s.fold.lowerCode c.toNat
      let forms := ((s.fold.letters lowered).flatMap s.fold.preimages).filter (· ≤ basicPlaneEnd)
      s.items.any (·.holdsLowered lowered forms)
    else s.items.any (·.holds c)
  inside != s.negated

/-- A character agrees with a code under a fold. -/
def Fold.matchesCode (f : Fold) (code : Nat) (c : Char) : Bool :=
  if f.isCased code then (f.letters (f.lowerCode code)).contains (f.lowerCode c.toNat)
  else c.toNat == code

/-- Two characters agree where a kept text is repeated. -/
def Fold.agrees (f : Fold) (a b : Char) : Bool := f.lowerCode a.toNat == f.lowerCode b.toNat

namespace Pattern

/-- A character is as it must be. -/
def Single.accepts (c : Char) : Single → Bool
  | .literal fold code => fold.matchesCode code c
  | .notLiteral fold code => !fold.matchesCode code c
  | .inLine => c != '\n'
  | .any => true
  | .oneOf s => s.contains c

/-- The one code that is accepted, if case does not matter. -/
def Single.plainCode? : Single → Option Nat
  | .literal fold code => if fold.isCased code then none else some code
  | _ => none

/-- A literal or a class in which case does not matter. -/
def Single.isPlain : Single → Bool
  | .literal fold code => !fold.isCased code
  | .oneOf s => !s.isCased
  | _ => false

/-- A class in which case matters. -/
def Single.isFoldedClass : Single → Bool
  | .oneOf s => s.isCased
  | .literal fold code | .notLiteral fold code =>
    fold.isCased code && (fold.letters (fold.lowerCode code)).length > 1
  | _ => false

end Pattern

end LabelTally
