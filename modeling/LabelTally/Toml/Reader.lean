import LabelTally.Toml.Table

/-!
# Settings files

A document is a list of statements, one a line: entries and headers. Carriage returns count only as
part of a line end.
-/

namespace LabelTally.Toml

/-- A character of a key without quotes. -/
def isKeyChar (c : Char) : Bool := c.isAlphanum || c == '-' || c == '_'

/-- Reads one part of a dotted key. -/
def readKeyPart (cs : List Char) : Except Fault (String × List Char) :=
  match cs with
  | [] => .error .malformed
  | c :: rest =>
    if isKeyChar c then
      let name := cs.takeWhile isKeyChar
      .ok (String.ofList name, cs.drop name.length)
    else if c == '\x27' then (readPlain rest).map fun (s, rest) => (String.ofList s, rest)
    else if c == '"' then
      (readQuoted false (rest.length + 1) rest).map fun (s, rest) => (String.ofList s, rest)
    else .error .malformed

/-- Reads the parts of a dotted key; `fuel` bounds their number. -/
def readKeyParts : (fuel : Nat) → List Char → Except Fault (Key × List Char)
  | 0, _ => .error .malformed
  | fuel + 1, cs => do
    let (part, rest) ← readKeyPart cs
    match skipSpace rest with
    | '.' :: rest =>
      let (more, rest) ← readKeyParts fuel (skipSpace rest)
      return (part :: more, rest)
    | rest => return ([part], rest)

/-- Reads a dotted key and the blanks after it. -/
def readKey (cs : List Char) : Except Fault (Key × List Char) := readKeyParts (cs.length + 1) cs

/-- Leaves out a comment. -/
def skipComment (cs : List Char) : Except Fault (List Char) :=
  match cs with
  | '#' :: rest =>
    let body := rest.takeWhile (· != '\n')
    if body.any (isIllegal false) then .error .malformed else .ok (rest.drop body.length)
  | _ => .ok cs

/-- Leaves out blanks, line ends and comments; `fuel` bounds the number of comments. -/
def skipFiller : (fuel : Nat) → List Char → Except Fault (List Char)
  | 0, cs => .ok cs
  | fuel + 1, cs =>
    match cs.dropWhile fun c => isSpace c || c == '\n' with
    | '#' :: rest => do skipFiller fuel (← skipComment ('#' :: rest))
    | rest => .ok rest

mutual

/-- Reads a value; `fuel` bounds nesting and length. -/
def readValue : (fuel : Nat) → List Char → Except Fault (Value × List Char)
  | 0, _ => .error .malformed
  | fuel + 1, cs =>
    match cs with
    | '[' :: rest => do
      match ← skipFiller rest.length rest with
      | ']' :: rest => return (.list [], rest)
      | rest =>
        let (items, rest) ← readItems fuel rest
        return (.list items, rest)
    | '\x7b' :: rest =>
      match skipSpace rest with
      | '\x7d' :: rest => .ok (.table [], rest)
      | rest => do
        let (table, rest) ← readInline fuel [] [] rest
        return (.table table, rest)
    | _ => readScalar cs

/-- Reads the items of a list up to its end. -/
def readItems : (fuel : Nat) → List Char → Except Fault (List Value × List Char)
  | 0, _ => .error .malformed
  | fuel + 1, cs => do
    let (v, rest) ← readValue fuel cs
    match ← skipFiller rest.length rest with
    | ']' :: rest => return ([v], rest)
    | ',' :: rest =>
      match ← skipFiller rest.length rest with
      | ']' :: rest => return ([v], rest)
      | rest =>
        let (more, rest) ← readItems fuel rest
        return (v :: more, rest)
    | _ => .error .malformed

/-- Reads the entries of a table on one line up to its end. -/
def readInline : (fuel : Nat) → Table → (closed : List Key) → List Char →
    Except Fault (Table × List Char)
  | 0, _, _, _ => .error .malformed
  | fuel + 1, table, closed, cs => do
    let (key, rest) ← readKey cs
    match rest with
    | '=' :: rest =>
      let (v, rest) ← readValue fuel (skipSpace rest)
      if closed.any fun k => k.isPrefixOf key then .error .malformed
      else
        match key.getLast? with
        | none => .error .malformed
        | some last =>
          let table ← changeAt false (addEntry last v) key.dropLast table
          match skipSpace rest with
          | '\x7d' :: rest => return (table, rest)
          | ',' :: rest =>
            readInline fuel table (if isNested v then key :: closed else closed) (skipSpace rest)
          | _ => .error .malformed
    | _ => .error .malformed

end

/-- Reads an entry. -/
def readEntry (cs : List Char) : Except Fault ((Key × Value) × List Char) := do
  let (key, rest) ← readKey cs
  match rest with
  | '=' :: rest =>
    let body := skipSpace rest
    let (v, rest) ← readValue (2 * body.length + 2) body
    return ((key, v), rest)
  | _ => .error .malformed

/-- A statement of a document. -/
inductive Statement
  /-- An entry. -/
  | entry (key : Key) (value : Value)
  /-- The header of a table. -/
  | table (key : Key)
  /-- The header of the next table of a list. -/
  | listItem (key : Key)

/-- Reads a statement. -/
def readStatement (cs : List Char) : Except Fault (Statement × List Char) :=
  match cs with
  | '[' :: '[' :: rest => do
    let (key, rest) ← readKey (skipSpace rest)
    match rest with
    | ']' :: ']' :: rest => return (.listItem key, rest)
    | _ => .error .malformed
  | '[' :: rest => do
    let (key, rest) ← readKey (skipSpace rest)
    match rest with
    | ']' :: rest => return (.table key, rest)
    | _ => .error .malformed
  | _ => do
    let ((key, v), rest) ← readEntry cs
    return (.entry key v, rest)

/-- Adds a statement to a document; the result also gives the header that holds from now on. -/
def Document.state (d : Document) (header : Key) : Statement → Except Fault (Document × Key)
  | .entry key v => do return (← d.add header key v, header)
  | .table key => do return (← d.endSection.openTable key, key)
  | .listItem key => do return (← d.endSection.openListItem key, key)

/-- Reads the statements of a document; `fuel` bounds the number of lines. -/
def readStatements : (fuel : Nat) → Document → (header : Key) → List Char → Except Fault Table
  | 0, _, _, _ => .error .malformed
  | fuel + 1, d, header, cs => do
    let cs := skipSpace cs
    let (d, header, rest) ←
      match cs with
      | [] => pure (d, header, [])
      | c :: _ =>
        if c == '\n' || c == '#' then pure (d, header, cs)
        else do
          let (s, rest) ← readStatement cs
          let (d, header) ← d.state header s
          pure (d, header, skipSpace rest)
    match ← skipComment rest with
    | [] => return d.table
    | '\n' :: rest => readStatements fuel d header rest
    | _ => .error .malformed

/-- A line feed for every line end of two characters. -/
def joinLineEnds : List Char → List Char
  | '\r' :: '\n' :: rest => '\n' :: joinLineEnds rest
  | c :: rest => c :: joinLineEnds rest
  | [] => []

/-- Reads a document. -/
def read (cs : List Char) : Except Fault Table :=
  let cs := joinLineEnds cs
  readStatements (cs.length + 1) {} [] cs

end LabelTally.Toml
