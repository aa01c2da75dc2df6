import RecordBinding.Toml.Scalar

namespace RecordBinding.Toml

/-- The table of an inline table under construction, with the keys whose values are closed. -/
structure InlineTable where
  table : Table
  closed : List (List String)

/-- Adds a key to an inline table, unless the key is taken or lies in a closed value. -/
def InlineTable.add? (t : InlineTable) (key : List String) (value : Document) : Option InlineTable :=
  match key.getLast? with
  | none => none
  | some stem =>
      if t.closed.any fun closed => closed.isPrefixOf key then none
      else
        (Table.modifyAt? false key.dropLast (Table.addNew? stem value) t.table).map fun table =>
          let closed :=
            match value with
            | .table _ => key :: t.closed
            | .array _ => key :: t.closed
            | _ => t.closed
          ⟨table, closed⟩

/-- Why a text is not read: it is not well formed, or it writes an integer with more digits than are
converted. -/
inductive ReadError where
  | malformed
  | tooManyDigits
  deriving DecidableEq, Repr

/-- What was read, if the text is well formed there. -/
def wellFormed {α : Type} : Option α → Except ReadError α
  | some found => .ok found
  | none => .error .malformed

mutual

/-- Reads a value, nested at most `fuel` deep. -/
def scanValue : Nat → List Char → Except ReadError (Document × List Char)
  | 0, _ => .error .malformed
  | fuel + 1, cs =>
      match dropText? [quotationMark, quotationMark, quotationMark] cs with
      | some rest => (wellFormed (scanBasicLines rest)).map fun (s, rest) => (.str s, rest)
      | none =>
      match dropText? [apostrophe, apostrophe, apostrophe] cs with
      | some rest => (wellFormed (scanLiteralLines rest)).map fun (s, rest) => (.str s, rest)
      | none =>
      match cs with
      | [] => .error .malformed
      | c :: rest =>
          if c = quotationMark then (wellFormed (scanBasic rest)).map fun (s, rest) => (.str s, rest)
          else if c = apostrophe then (wellFormed (scanLiteral rest)).map fun (s, rest) => (.str s, rest)
          else if c = '[' then
            match skipLines rest.length rest with
            | none => .error .malformed
            | some (']' :: left) => .ok (.array [], left)
            | some left => (scanItems fuel left).map fun (items, left) => (.array items, left)
          else if c = Char.ofNat 0x7b then
            match skipSpace rest with
            | first :: left =>
                if first = Char.ofNat 0x7d then .ok (.table [], left)
                else (scanEntries fuel ⟨[], []⟩ (first :: left)).map fun (t, left) => (.table t, left)
            | [] => .error .malformed
          else
            match dropText? ['t', 'r', 'u', 'e'] cs, dropText? ['f', 'a', 'l', 's', 'e'] cs with
            | some left, _ => .ok (.bool true, left)
            | _, some left => .ok (.bool false, left)
            | none, none =>
                match scanMoment cs with
                | .found written left => .ok (.moment written, left)
                | .invalid => .error .malformed
                | .absent =>
                    match scanNumber cs with
                    | .found value left => .ok (value, left)
                    | .tooLong => .error .tooManyDigits
                    | .absent => wellFormed (scanSpecial cs)

/-- Reads the items of an array up to its end. -/
def scanItems : Nat → List Char → Except ReadError (List Document × List Char)
  | 0, _ => .error .malformed
  | fuel + 1, cs =>
      match scanValue fuel cs with
      | .error e => .error e
      | .ok (item, rest) =>
          match skipLines rest.length rest with
          | some (']' :: left) => .ok ([item], left)
          | some (',' :: left) =>
              match skipLines left.length left with
              | some (']' :: left) => .ok ([item], left)
              | some left => (scanItems fuel left).map fun (items, left) => (item :: items, left)
              | none => .error .malformed
          | _ => .error .malformed

def scanEntries : Nat → InlineTable → List Char → Except ReadError (Table × List Char)
  | 0, _, _ => .error .malformed
  | fuel + 1, t, cs =>
      match scanKey cs with
      | some (key, '=' :: rest) =>
          match scanValue fuel (skipSpace rest) with
          | .error e => .error e
          | .ok (value, rest) =>
              match t.add? key value, skipSpace rest with
              | some t, c :: left =>
                  if c = Char.ofNat 0x7d then .ok (t.table, left)
                  else if c = ',' then scanEntries fuel t (skipSpace left)
                  else .error .malformed
              | _, _ => .error .malformed
      | _ => .error .malformed

end

/-- A mark on a path of the document. -/
inductive Mark where
  | opened
  | closed
  deriving DecidableEq, Repr

/-- A document being read: its table so far, the marks on its paths, marks that take effect at the next
header, and the path of the current table. Closed marks hold for all that lies below their path. -/
structure Reading where
  table : Table
  marks : List (List String × Mark)
  pending : List (List String)
  header : List String

namespace Reading

def isOpened (r : Reading) (path : List String) : Bool :=
  r.marks.any fun mark => mark.2 = .opened && mark.1 == path

/-- Whether a path is closed, or lies below a closed one. -/
def isClosed (r : Reading) (path : List String) : Bool :=
  r.marks.any fun mark => mark.2 = .closed && mark.1.isPrefixOf path

/-- Lets the pending marks take effect. -/
def settle (r : Reading) : Reading :=
  { r with marks := r.pending.map (fun path => (path, .opened)) ++ r.marks, pending := [] }

def openTable? (r : Reading) (path : List String) : Option Reading :=
  if r.isOpened path || r.isClosed path then none
  else
    (Table.modifyAt? true path some r.table).map fun table =>
      { r with table, marks := (path, .opened) :: r.marks, header := path }

/-- Opens a new item of an array of tables by its header; the paths below start afresh. -/
def openItem? (r : Reading) (path : List String) : Option Reading :=
  match path.getLast? with
  | none => none
  | some stem =>
      if r.isClosed path then none
      else
        (Table.modifyAt? true path.dropLast (Table.appendTable? stem) r.table).map fun table =>
          { r with
            table
            marks := (path, .opened) :: r.marks.filter fun mark => !path.isPrefixOf mark.1
            header := path }

/-- The paths from the current table down to the parent of a key, less the current one itself. -/
def tablesOnWay (header key : List String) : List (List String) :=
  (List.range (key.length - 1)).map fun n => header ++ key.take (n + 1)

/-- Adds a key with its value to the current table. -/
def addEntry? (r : Reading) (key : List String) (value : Document) : Option Reading :=
  match key.getLast? with
  | none => none
  | some stem =>
      let onWay := tablesOnWay r.header key
      let parent := r.header ++ key.dropLast
      if onWay.any r.isOpened || r.isClosed parent then none
      else
        (Table.modifyAt? true parent (Table.addNew? stem value) r.table).map fun table =>
          let marks :=
            match value with
            | .table _ => (r.header ++ key, .closed) :: r.marks
            | .array _ => (r.header ++ key, .closed) :: r.marks
            | _ => r.marks
          { r with table, marks, pending := onWay ++ r.pending }

/-- Reads the statement at the start of a line, which starts neither blank nor with a newline. -/
def statement (r : Reading) (cs : List Char) : Except ReadError (Reading × List Char) :=
  match cs with
  | '[' :: '[' :: rest => do
      let (path, rest) ← wellFormed (scanKey (skipSpace rest))
      let r ← wellFormed (r.settle.openItem? path)
      let rest ← wellFormed (dropText? [']', ']'] rest)
      return (r, rest)
  | '[' :: rest => do
      let (path, rest) ← wellFormed (scanKey (skipSpace rest))
      let r ← wellFormed (r.settle.openTable? path)
      let rest ← wellFormed (dropText? [']'] rest)
      return (r, rest)
  | '#' :: rest => .ok (r, '#' :: rest)
  | cs => do
      let (key, rest) ← wellFormed (scanKey cs)
      let rest ← wellFormed (scanChar '=' rest)
      let rest := skipSpace rest
      let (value, rest) ← scanValue (rest.length + 1) rest
      let r ← wellFormed (r.addEntry? key value)
      return (r, rest)

def lines : Nat → Reading → List Char → Except ReadError Reading
  | 0, _, _ => .error .malformed
  | fuel + 1, r, cs =>
      match skipSpace cs with
      | [] => .ok r
      | '\n' :: rest => r.lines fuel rest
      | cs => do
          let (r, rest) ← r.statement cs
          match ← wellFormed (skipComment (skipSpace rest)) with
          | [] => return r
          | '\n' :: rest => r.lines fuel rest
          | _ => .error .malformed

end Reading

/-- A text with plain newlines for those of two characters. -/
def plainNewlines : List Char → List Char
  | '\r' :: '\n' :: rest => '\n' :: plainNewlines rest
  | c :: rest => c :: plainNewlines rest
  | [] => []

def read (text : String) : Except ReadError Table :=
  let cs := plainNewlines text.toList
  ((⟨[], [], [], []⟩ : Reading).lines (cs.length + 1) cs).map Reading.table

end RecordBinding.Toml
