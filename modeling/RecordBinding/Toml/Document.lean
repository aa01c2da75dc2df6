namespace RecordBinding.Toml

/-- A value in a document. Dates and times are kept as written. -/
inductive Document where
  | null
  | bool (value : Bool)
  | int (value : Int)
  | float (value : Float)
  | str (value : String)
  | moment (written : String)
  | array (items : List Document)
  | table (entries : List (String × Document))

abbrev Table := List (String × Document)

namespace Table

def get? (t : Table) (key : String) : Option Document :=
  t.lookup key

/-- Puts a value under a key: in its place when present, at the end otherwise. -/
def put (t : Table) (key : String) (value : Document) : Table :=
  if (t.get? key).isSome then
    t.map fun entry => if entry.1 == key then (key, value) else entry
  else t ++ [(key, value)]

/-- Changes the table at a path, which is created where it is missing. Arrays on the way, where allowed,
stand for their last item; any other value on the way is an obstacle. -/
def modifyAt? (throughArrays : Bool) : List String → (Table → Option Table) → Table → Option Table
  | [], change, t => change t
  | key :: path, change, t =>
      match t.get? key with
      | none => (modifyAt? throughArrays path change []).map fun inner => t.put key (.table inner)
      | some (.table inner) =>
          (modifyAt? throughArrays path change inner).map fun inner => t.put key (.table inner)
      | some (.array items) =>
          match throughArrays, items.getLast? with
          | true, some (.table inner) =>
              (modifyAt? throughArrays path change inner).map fun inner =>
                t.put key (.array (items.dropLast ++ [.table inner]))
          | _, _ => none
      | some _ => none

/-- Adds an entry whose key is new. -/
def addNew? (key : String) (value : Document) (t : Table) : Option Table :=
  match t.get? key with
  | none => some (t ++ [(key, value)])
  | some _ => none

/-- Appends an empty table to the array under a key, which is created where it is missing. -/
def appendTable? (key : String) (t : Table) : Option Table :=
  match t.get? key with
  | none => some (t ++ [(key, .array [.table []])])
  | some (.array items) => some (t.put key (.array (items ++ [.table []])))
  | some _ => none

end Table

end RecordBinding.Toml
