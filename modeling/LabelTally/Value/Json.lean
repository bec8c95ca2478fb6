import LabelTally.Value

/-!
# Values as JSON

Reports and errors printed as JSON: two spaces of indentation a level, entries in order, and every
character outside ASCII written as one or two escaped UTF-16 units.
-/

namespace LabelTally

/-- Numbers outside the finite ones, as JSON output spells them. -/
def jsonSpelling : Decimal.Spelling := ⟨"NaN", "Infinity"⟩

/-- One escaped UTF-16 unit. -/
def jsonUnit (n : Nat) : List Char := '\\' :: 'u' :: Text.hex 4 n

/-- The written form of one character of a JSON text. -/
def jsonChar (c : Char) : List Char :=
  let n := c.toNat
  if c == '"' || c == '\\' then ['\\', c]
  else if c == '\n' then ['\\', 'n']
  else if c == '\r' then ['\\', 'r']
  else if c == '\t' then ['\\', 't']
  else if n == 8 then ['\\', 'b']
  else if n == 12 then ['\\', 'f']
  else if 32 ≤ n && n < 127 then [c]
  else if n < 0x10000 then jsonUnit n
  else jsonUnit (0xd800 + (n - 0x10000) / 1024) ++ jsonUnit (0xdc00 + (n - 0x10000) % 1024)

/-- A JSON text. -/
def jsonText (s : String) : String :=
  String.ofList ('"' :: s.toList.flatMap jsonChar ++ ['"'])

/-- A new line at a depth. -/
def jsonBreak (depth : Nat) : String :=
  String.ofList ('\n' :: List.replicate (2 * depth) ' ')

/-- Parts on lines of their own between brackets; no parts leave no space between the brackets. -/
def jsonBlock (opening closing : String) (depth : Nat) (parts : List String) : String :=
  if parts.isEmpty then opening ++ closing
  else
    opening ++ jsonBreak (depth + 1) ++ ("," ++ jsonBreak (depth + 1)).intercalate parts ++
      jsonBreak depth ++ closing

mutual

/-- The JSON form of a value at a depth. Dates and times have none and are written as null. -/
def Value.json (depth : Nat) : Value → String
  | .bool b => if b then "true" else "false"
  | .int i => toString i
  | .float x => Decimal.render jsonSpelling x
  | .text s => jsonText s
  | .list items => jsonBlock "[" "]" depth (Value.jsonItems (depth + 1) items)
  | .table entries => jsonBlock "\x7b" "\x7d" depth (Value.jsonEntries (depth + 1) entries)
  | _ => "null"

/-- The JSON forms of the items of a list. -/
def Value.jsonItems (depth : Nat) : List Value → List String
  | [] => []
  | v :: vs => v.json depth :: Value.jsonItems depth vs

/-- The JSON forms of the entries of a table. -/
def Value.jsonEntries (depth : Nat) : List (String × Value) → List String
  | [] => []
  | (k, v) :: es => (jsonText k ++ ": " ++ v.json depth) :: Value.jsonEntries depth es

end

/-- A value printed as JSON, with the newline that ends the output. -/
def Value.printJson (v : Value) : String := v.json 0 ++ "\n"

end LabelTally
