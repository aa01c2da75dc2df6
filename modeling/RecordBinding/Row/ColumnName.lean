import RecordBinding.Text.LetterCase

namespace RecordBinding

def normalizeColumnName (name : String) : String :=
  Text.lower (String.ofList (name.toList.filter (· ≠ '_')))

/-- What is left of a text behind a prefix, if it starts with it. -/
def dropLeading? (leading name : String) : Option String :=
  if leading.toList.isPrefixOf name.toList then
    some (String.ofList (name.toList.drop leading.length))
  else none

end RecordBinding
