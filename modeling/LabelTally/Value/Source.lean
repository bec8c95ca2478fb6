import LabelTally.Decimal.Digits
import LabelTally.Value

/-!
# Values in messages

The text by which a message shows a value it rejects, and the name of the value's kind.
-/

namespace LabelTally

/-- Numbers outside the finite ones, as messages spell them. -/
def messageSpelling : Decimal.Spelling := ⟨"nan", "inf"⟩

/-- The fields of a time of day; trailing zero seconds and microseconds are left out. -/
def TimeOfDay.fields (t : TimeOfDay) : List Nat :=
  [t.hour, t.minute] ++
    (if t.micros != 0 then [t.second, t.micros] else if t.second != 0 then [t.second] else [])

/-- Numbers separated by commas. -/
def joinNumbers (ns : List Nat) : String := ", ".intercalate (ns.map toString)

/-- The text of an offset from universal time, given in minutes; a negative offset is written as a
negative day and the seconds that lead back up. -/
def offsetSource (minutes : Int) : String :=
  if minutes = 0 then "datetime.timezone.utc"
  else
    let seconds := minutes * 60
    let days := Int.fdiv seconds 86400
    let rest := Int.fmod seconds 86400
    let parts := (if days ≠ 0 then ["days=" ++ toString days] else []) ++
      (if rest ≠ 0 then ["seconds=" ++ toString rest] else [])
    "datetime.timezone(datetime.timedelta(" ++ ", ".intercalate parts ++ "))"

mutual

/-- The text by which a message shows a value. -/
def Value.source : Value → String
  | .null => "None"
  | .bool b => if b then "True" else "False"
  | .int i => toString i
  | .float x => Decimal.render messageSpelling x
  | .text s => Text.quote s
  | .list items => "[" ++ ", ".intercalate (Value.sourceItems items) ++ "]"
  | .table entries => "\x7b" ++ ", ".intercalate (Value.sourceEntries entries) ++ "\x7d"
  | .date d => "datetime.date(" ++ joinNumbers [d.year, d.month, d.day] ++ ")"
  | .time t => "datetime.time(" ++ joinNumbers t.fields ++ ")"
  | .moment d t offset =>
    "datetime.datetime(" ++ joinNumbers ([d.year, d.month, d.day] ++ t.fields) ++
      (match offset with
        | some minutes => ", tzinfo=" ++ offsetSource minutes
        | none => "") ++ ")"

/-- The texts of the items of a list. -/
def Value.sourceItems : List Value → List String
  | [] => []
  | v :: vs => v.source :: Value.sourceItems vs

/-- The texts of the entries of a table. -/
def Value.sourceEntries : List (String × Value) → List String
  | [] => []
  | (k, v) :: es => (Text.quote k ++ ": " ++ v.source) :: Value.sourceEntries es

end

mutual

/-- The value holds an integer with too many digits to be written. -/
def Value.isTooLong : Value → Bool
  | .int i => Decimal.isTooLong i
  | .list items => Value.anyTooLong items
  | .table entries => Value.entriesTooLong entries
  | _ => false

/-- One of the values holds such an integer. -/
def Value.anyTooLong : List Value → Bool
  | [] => false
  | v :: vs => v.isTooLong || Value.anyTooLong vs

/-- The value of one of the entries holds such an integer. -/
def Value.entriesTooLong : List (String × Value) → Bool
  | [] => false
  | (_, v) :: es => v.isTooLong || Value.entriesTooLong es

end

/-- A message that ends by showing a value. One that cannot be shown is reported instead. -/
def Value.endMessage (v : Value) (message : String) : String :=
  if v.isTooLong then Decimal.tooLongMessage else message ++ v.source

/-- The name of the kind of a value. -/
def Value.kindName : Value → String
  | .null => "NoneType"
  | .bool _ => "bool"
  | .int _ => "int"
  | .float _ => "float"
  | .text _ => "str"
  | .list _ => "list"
  | .table _ => "dict"
  | .date _ => "datetime.date"
  | .time _ => "datetime.time"
  | .moment .. => "datetime.datetime"

end LabelTally
