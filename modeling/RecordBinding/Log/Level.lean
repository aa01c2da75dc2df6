import RecordBinding.Error
import RecordBinding.Text.Blank
import RecordBinding.Text.LetterCase

namespace RecordBinding

/-- A level as it is asked for. -/
inductive LevelRequest where
  | number (level : Int)
  | named (name : String)

namespace LevelRequest

def levelNames : List (String × Int) :=
  [("CRITICAL", 50), ("FATAL", 50), ("ERROR", 40), ("WARN", 30), ("WARNING", 30), ("INFO", 20),
    ("DEBUG", 10), ("NOTSET", 0)]

/-- The number of a level. Names are taken without blanks around them and in any case; a blank name
means `INFO`. -/
def resolve : LevelRequest → Except ConfigurationError Int
  | number level => .ok level
  | named given =>
      let name := Text.upper (Text.trim given)
      match levelNames.lookup (if name.isEmpty then "INFO" else name) with
      | some level => .ok level
      | none => .error (.unknownLogLevel given)

end LevelRequest

end RecordBinding
