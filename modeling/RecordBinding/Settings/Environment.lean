import RecordBinding.Decimal.Reading
import RecordBinding.Error

namespace RecordBinding

/-- The variables of an environment with their values. -/
abbrev Environment := List (String × String)

namespace Environment

/-- The value of a variable, unless it is missing or blank. -/
def present? (env : Environment) (name : String) : Option String :=
  match env.lookup name with
  | some text => if Text.allBlank text then none else some text
  | none => none

/-- A setting that is a text, without the blanks around it. -/
def readText (env : Environment) (name fallback : String) : String :=
  match env.present? name with
  | some text => Text.trim text
  | none => fallback

def readNumber (env : Environment) (name : String) (fallback : Number) :
    Except ConfigurationError Number :=
  match env.present? name with
  | some text =>
      match Decimal.read? text with
      | some x => .ok (.float x)
      | none => .error (.notANumber name text)
  | none => .ok fallback

end Environment

end RecordBinding
