import LabelTally.Toml.Scalar

/-!
# Tables of a settings file

A document builds one table. A dotted key names a way through nested tables; where it meets a list
of tables, it goes on in the last of them. What a document has stated once it may not state again:
values written in one place are closed, and a table can be opened by a header only once.
-/

namespace LabelTally.Toml

/-- A dotted key. -/
abbrev Key := List String

/-- The entries of a table. -/
abbrev Table := List (String × Value)

/-- The table with one entry set; a new one comes last. -/
def setEntry (t : Table) (key : String) (v : Value) : Table :=
  match t with
  | [] => [(key, v)]
  | e :: rest => if e.1 == key then (key, v) :: rest else e :: setEntry rest key v

/-- Changes the table at the end of a way; missing tables are made. Lists are entered only if
`throughLists` holds. -/
def changeAt (throughLists : Bool) (f : Table → Except Fault Table) :
    Key → Table → Except Fault Table
  | [], t => f t
  | k :: rest, t =>
    match t.lookup k with
    | none => do return setEntry t k (.table (← changeAt throughLists f rest []))
    | some (.table inner) => do return setEntry t k (.table (← changeAt throughLists f rest inner))
    | some (.list items) =>
      match throughLists, items.getLast? with
      | true, some (.table inner) => do
        let changed ← changeAt throughLists f rest inner
        return setEntry t k (.list (items.dropLast ++ [.table changed]))
      | _, _ => .error .malformed
    | some _ => .error .malformed

/-- Adds an entry that must be new. -/
def addEntry (key : String) (v : Value) (t : Table) : Except Fault Table :=
  if (t.lookup key).isSome then .error .malformed else .ok (t ++ [(key, v)])

/-- Adds an empty table to a list of tables. -/
def addToList (key : String) (t : Table) : Except Fault Table :=
  match t.lookup key with
  | none => .ok (t ++ [(key, .list [.table []])])
  | some (.list items) => .ok (setEntry t key (.list (items ++ [.table []])))
  | some _ => .error .malformed

/-- The value holds others. -/
def isNested : Value → Bool
  | .table _ => true
  | .list _ => true
  | _ => false

/-- A document so far. -/
structure Document where
  /-- The table it builds. -/
  table : Table := []
  /-- Ways to values that are closed, with all that lies below. -/
  closed : List Key := []
  /-- Tables that cannot be opened by a header any more. -/
  stated : List Key := []
  /-- Tables that cannot be opened from the next header on. -/
  pending : List Key := []

namespace Document

/-- The way leads to or through a closed value. -/
def isClosed (d : Document) (key : Key) : Bool := d.closed.any fun k => k.isPrefixOf key

/-- A header ends the section before it. -/
def endSection (d : Document) : Document :=
  { d with stated := d.stated ++ d.pending, pending := [] }

/-- Opens a table by a header. -/
def openTable (d : Document) (key : Key) : Except Fault Document :=
  if d.stated.contains key || d.isClosed key then .error .malformed
  else do
    let table ← changeAt true .ok key d.table
    return { d with table, stated := key :: d.stated }

/-- Opens the next table of a list by a header. -/
def openListItem (d : Document) (key : Key) : Except Fault Document :=
  if d.isClosed key then .error .malformed
  else
    match key.getLast? with
    | none => .error .malformed
    | some last => do
      let free (keys : List Key) : List Key := keys.filter fun k => !key.isPrefixOf k
      let table ← changeAt true (addToList last) key.dropLast d.table
      return { d with table, stated := key :: free d.stated, closed := free d.closed }

/-- The ways to the tables that a dotted key leads through, below a header. -/
def between (header key : Key) : List Key :=
  (List.range (key.length - 1)).map fun i => header ++ key.take (i + 1)

/-- Adds an entry below a header. -/
def add (d : Document) (header key : Key) (v : Value) : Except Fault Document :=
  let ways := between header key
  let parent := header ++ key.dropLast
  if ways.any d.stated.contains || d.isClosed parent then .error .malformed
  else
    match key.getLast? with
    | none => .error .malformed
    | some last => do
      let table ← changeAt true (addEntry last v) parent d.table
      return { d with
        table,
        pending := d.pending ++ ways,
        closed := if isNested v then (header ++ key) :: d.closed else d.closed }

end Document

end LabelTally.Toml
