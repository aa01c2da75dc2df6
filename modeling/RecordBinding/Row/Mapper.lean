import RecordBinding.Binding.Session
import RecordBinding.Registry.Resolution
import RecordBinding.Row.ColumnName

namespace RecordBinding

/-- A row: its columns in order with their values. Rows of a query result report a missing column in
their own way. -/
structure Row where
  cells : List (String × Value)
  isQueryRow : Bool

namespace Row

def columns (row : Row) : List String :=
  row.cells.map (·.1)

/-- The value in a column, the last one when the column occurs again. -/
def value? (row : Row) (column : String) : Option Value :=
  row.cells.reverse.lookup column

/-- The value in a column that a row ought to have. -/
def value (row : Row) (column : String) : Except Failure Value :=
  match row.value? column with
  | some v => .ok v
  | none => .error (.misuse (if row.isQueryRow then .other "NoSuchColumnError" [.lookup] else .keyError))

def ofQuery (columns : List String) (values : List Value) : Row :=
  ⟨columns.zip values, true⟩

/-- A row of distinct columns: a column that occurs again changes the value at its first place. -/
def ofColumns (columns : List String) (values : List Value) : Row :=
  ⟨Fields.setAll [] (columns.zip values), false⟩

end Row

/-- A mapping of rows to the values of a target type; the prefix is kept in normal form. -/
structure RowMapper where
  target : TypeExpr
  leading : String

namespace RowMapper

/-- The mapping to a target of columns with a prefix. -/
def ofPrefix (target : TypeExpr) (leading : String) : RowMapper :=
  ⟨target, normalizeColumnName leading⟩

/-- The property of a normal form: the last of the names that have it. -/
def propertyFor? (names : List String) (key : String) : Option String :=
  names.reverse.find? fun name => normalizeColumnName name == key

/-- The property that a column belongs to. -/
def matchColumn? (m : RowMapper) (names : List String) (column : String) : Option String :=
  let key := normalizeColumnName column
  if m.leading.isEmpty then propertyFor? names key
  else (dropLeading? m.leading key).bind (propertyFor? names)

/-- Matched columns, and one more if it belongs to a property and is new. -/
def addMatch (m : RowMapper) (names : List String) (matched : List (String × String))
    (column : String) : List (String × String) :=
  match m.matchColumn? names column with
  | some name =>
      if matched.any fun entry => entry.1 == column then matched
      else matched ++ [(column, name)]
  | none => matched

/-- The columns that belong to properties, in order and once each. -/
def matchedColumns (m : RowMapper) (names : List String) (columns : List String) :
    List (String × String) :=
  columns.foldl (m.addMatch names) []

/-- The columns that belong to properties of a binding; there must be one. -/
def matchColumns (m : RowMapper) (b : Binding World) (columns : List String) :
    Except Failure (List (String × String)) :=
  match m.matchedColumns b.names columns with
  | [] => .error (.mapping (.noMatchingColumn b.type columns))
  | matched => .ok matched

/-- Writes the matched columns of a row, up to the first failure. -/
def writeRow {σ : Type} (s : Session σ) (row : Row) : List (String × String) → Action σ Unit
  | [] => pure ()
  | (column, name) :: rest => do
      s.write name (← Action.ofExcept (row.value column))
      writeRow s row rest

/-- The value of a row whose columns are matched. -/
def buildRow {σ : Type} (b : Binding σ) (matched : List (String × String)) (row : Row) :
    Action σ Value := do
  let session ← b.open
  writeRow session row matched
  session.result

variable {τ : Type} [TimeScale τ]

/-- The binding of the target, which must fall to a registration. -/
def binding (u : Universe) (m : RowMapper) (now later : τ) : RegistryAction τ (Binding World) := do
  match ← RegistryAction.resolve u m.target now later with
  | some b => return b
  | none => throw (.mapping (.notRegistered m.target))

def mapRow (u : Universe) (m : RowMapper) (now later : τ) (row : Row) : RegistryAction τ Value := do
  let b ← m.binding u now later
  let matched ← Action.ofExcept (m.matchColumns b row.columns)
  RegistryAction.onWorld (buildRow b matched row)

/-- The values of rows that have the columns of the first one. -/
def mapAll (u : Universe) (m : RowMapper) (now later : τ) (rows : List Row) :
    RegistryAction τ (List Value) := do
  match rows with
  | [] => return []
  | first :: _ =>
      let b ← m.binding u now later
      let matched ← Action.ofExcept (m.matchColumns b first.columns)
      RegistryAction.onWorld (rows.mapM (buildRow b matched))

end RowMapper

/-- The properties of a value as parameters with prefixed names; absent ones are null. -/
def bindProperties {τ : Type} [TimeScale τ] (u : Universe) (target : Value) (leading : String)
    (now later : τ) : RegistryAction τ (List (String × Value)) := do
  let t : TypeExpr := .cls (u.classOf target)
  match ← RegistryAction.resolve u t now later with
  | some b =>
      RegistryAction.onWorld (b.accessors.mapM fun a => do
        let current ← a.get target
        return (leading ++ a.name, if current.isAbsent then .null else current))
  | none => throw (.mapping (.notRegistered t))

end RecordBinding
