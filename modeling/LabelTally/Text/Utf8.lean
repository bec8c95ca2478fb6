/-!
# UTF-8

Decoding of bytes into characters. The lenient decoder puts U+FFFD in place of every longest run of
bytes that starts a character and cannot go on, and of every byte that starts none; the strict one
reports the first such place. Encoding writes the shortest form, which both decoders read back.
-/

namespace LabelTally.Text.Utf8

/-- Where decoding stands: between two characters, or inside one. -/
inductive Progress
  /-- No character is open. -/
  | between
  /-- An open character: its bits so far, how many bytes are missing, and the bounds of the next. -/
  | inside (bits : Nat) (missing : Nat) (least most : UInt8)
  deriving Repr, DecidableEq

/-- What one byte does to the progress. -/
inductive Move
  /-- A character is complete. -/
  | done (c : Char)
  /-- A character is open. -/
  | opened (p : Progress)
  /-- The byte starts no character. -/
  | badStart
  deriving Repr

/-- The replacement character. -/
def replacement : Char := '�'

/-- What a byte does when no character is open. The bounds on the second byte rule out overlong
forms, surrogates and codes above U+10FFFF. -/
def start (b : UInt8) : Move :=
  if b < 0x80 then .done (Char.ofNat b.toNat)
  else if b < 0xc2 then .badStart
  else if b < 0xe0 then .opened (.inside (b.toNat - 0xc0) 1 0x80 0xbf)
  else if b < 0xf0 then
    .opened (.inside (b.toNat - 0xe0) 2 (if b == 0xe0 then 0xa0 else 0x80)
      (if b == 0xed then 0x9f else 0xbf))
  else if b < 0xf5 then
    .opened (.inside (b.toNat - 0xf0) 3 (if b == 0xf0 then 0x90 else 0x80)
      (if b == 0xf4 then 0x8f else 0xbf))
  else .badStart

/-- What an accepted byte does inside a character. -/
def resume (bits missing : Nat) (b : UInt8) : Move :=
  let bits := bits * 64 + (b.toNat - 0x80)
  if missing ≤ 1 then .done (Char.ofNat bits) else .opened (.inside bits (missing - 1) 0x80 0xbf)

/-- Lenient decoding from a given progress. -/
def decodeFrom : Progress → List UInt8 → List Char
  | .between, [] => []
  | .inside .., [] => [replacement]
  | .between, b :: rest =>
    match start b with
    | .done c => c :: decodeFrom .between rest
    | .opened p => decodeFrom p rest
    | .badStart => replacement :: decodeFrom .between rest
  | .inside bits missing least most, b :: rest =>
    if least ≤ b && b ≤ most then
      match resume bits missing b with
      | .done c => c :: decodeFrom .between rest
      | .opened p => decodeFrom p rest
      | .badStart => replacement :: decodeFrom .between rest
    else
      replacement ::
        match start b with
        | .done c => c :: decodeFrom .between rest
        | .opened p => decodeFrom p rest
        | .badStart => replacement :: decodeFrom .between rest

/-- Lenient decoding: every byte sequence has a text. -/
def decode (bytes : List UInt8) : List Char := decodeFrom .between bytes

/-- Why strict decoding stops. -/
inductive Reason
  /-- A byte starts no character. -/
  | invalidStart
  /-- A byte cannot continue the open character. -/
  | invalidContinuation
  /-- The bytes end inside a character. -/
  | unexpectedEnd
  deriving Repr, DecidableEq

/-- The first place where strict decoding stops. -/
structure Defect where
  /-- The first byte of the offending run. -/
  byte : UInt8
  /-- Its position. -/
  position : Nat
  /-- The length of the offending run. -/
  size : Nat
  /-- Why decoding stops here. -/
  reason : Reason
  deriving Repr, DecidableEq

/-- Strict decoding from a given progress. `first` and `since` are the first byte and the position
of the open character, `pos` is the position of the next byte. -/
def decodeStrictFrom (first : UInt8) (since pos : Nat) :
    Progress → List UInt8 → Except Defect (List Char)
  | .between, [] => .ok []
  | .inside .., [] => .error ⟨first, since, pos - since, .unexpectedEnd⟩
  | .between, b :: rest =>
    match start b with
    | .done c => (decodeStrictFrom b (pos + 1) (pos + 1) .between rest).map (c :: ·)
    | .opened p => decodeStrictFrom b pos (pos + 1) p rest
    | .badStart => .error ⟨b, pos, 1, .invalidStart⟩
  | .inside bits missing least most, b :: rest =>
    if least ≤ b && b ≤ most then
      match resume bits missing b with
      | .done c => (decodeStrictFrom b (pos + 1) (pos + 1) .between rest).map (c :: ·)
      | .opened p => decodeStrictFrom first since (pos + 1) p rest
      | .badStart => .error ⟨b, pos, 1, .invalidStart⟩
    else .error ⟨first, since, pos - since, .invalidContinuation⟩

/-- Strict decoding: the text of well-formed bytes, or the first defect. -/
def decodeStrict (bytes : List UInt8) : Except Defect (List Char) :=
  decodeStrictFrom 0 0 0 .between bytes

/-- The bytes of one character. -/
def encodeChar (c : Char) : List UInt8 :=
  let n := c.toNat
  let tail (k : Nat) : UInt8 := (0x80 + n / k % 64).toUInt8
  if n < 0x80 then [n.toUInt8]
  else if n < 0x800 then [(0xc0 + n / 64).toUInt8, tail 1]
  else if n < 0x10000 then [(0xe0 + n / 4096).toUInt8, tail 64, tail 1]
  else [(0xf0 + n / 262144).toUInt8, tail 4096, tail 64, tail 1]

/-- The bytes of a text. -/
def encode (cs : List Char) : List UInt8 := cs.flatMap encodeChar

end LabelTally.Text.Utf8
