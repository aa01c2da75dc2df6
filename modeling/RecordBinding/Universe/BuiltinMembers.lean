import RecordBinding.Declaration.Module
/-!
What the dictionaries of the built-in classes hold. It is called with arguments of its own kind or read off
an instance by the language itself, so none of it is a property or a plain function; but it stands before
what later bases hold under the same names.
-/

namespace RecordBinding

namespace Builtin

/-- The names without underscore in the dictionary of a built-in class, in order. -/
def publicNames : Builtin → List String
  | int =>
    ["conjugate", "bit_length", "bit_count", "to_bytes", "from_bytes", "as_integer_ratio",
      "is_integer", "real", "imag", "numerator", "denominator"]
  | str =>
    ["encode", "replace", "split", "rsplit", "join", "capitalize", "casefold", "title", "center",
      "count", "expandtabs", "find", "partition", "index", "ljust", "lower", "lstrip", "rfind",
      "rindex", "rjust", "rstrip", "rpartition", "splitlines", "strip", "swapcase", "translate",
      "upper", "startswith", "endswith", "removeprefix", "removesuffix", "isascii", "islower",
      "isupper", "istitle", "isspace", "isdecimal", "isdigit", "isnumeric", "isalpha", "isalnum",
      "isidentifier", "isprintable", "zfill", "format", "format_map", "maketrans"]
  | float =>
    ["conjugate", "as_integer_ratio", "fromhex", "hex", "is_integer", "real", "imag"]
  | bytes =>
    ["capitalize", "center", "count", "decode", "endswith", "expandtabs", "find", "fromhex", "hex",
      "index", "isalnum", "isalpha", "isascii", "isdigit", "islower", "isspace", "istitle",
      "isupper", "join", "ljust", "lower", "lstrip", "maketrans", "partition", "replace",
      "removeprefix", "removesuffix", "rfind", "rindex", "rjust", "rpartition", "rsplit", "rstrip",
      "split", "splitlines", "startswith", "strip", "swapcase", "title", "translate", "upper",
      "zfill"]
  | list =>
    ["clear", "copy", "append", "insert", "extend", "pop", "remove", "index", "count", "reverse",
      "sort"]
  | dict =>
    ["get", "setdefault", "pop", "popitem", "keys", "items", "values", "update", "fromkeys",
      "clear", "copy"]
  | tuple =>
    ["index", "count"]
  | set =>
    ["add", "clear", "copy", "discard", "difference", "difference_update", "intersection",
      "intersection_update", "isdisjoint", "issubset", "issuperset", "pop", "remove",
      "symmetric_difference", "symmetric_difference_update", "union", "update"]
  | frozenset =>
    ["copy", "difference", "intersection", "isdisjoint", "issubset", "issuperset",
      "symmetric_difference", "union"]
  | complex =>
    ["conjugate", "real", "imag"]
  | _ => []

/-- What a built-in class holds under a name. -/
def member (b : Builtin) (name : String) : Member :=
  ⟨name, .attribute (.opaqueObject "method_descriptor"
    ("<method " ++ Text.quote name ++ " of " ++ Text.quote b.name ++ " objects>")), false⟩

def members (b : Builtin) : List Member :=
  b.publicNames.map b.member

end Builtin

/-- The members that a class holds by the language. -/
def ClassId.builtinMembers : ClassId → List Member
  | .builtin b => b.members
  | _ => []

theorem ClassId.kind_of_mem_builtinMembers {c : ClassId} {member : Member}
    (h : member ∈ c.builtinMembers) : ∃ v, member.kind = .attribute v := by
  cases c with
  | builtin b =>
      obtain ⟨name, -, rfl⟩ := List.mem_map.1 h
      exact ⟨_, rfl⟩
  | _ => cases h

end RecordBinding
