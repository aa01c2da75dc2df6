namespace RecordBinding.Text

/-- A set of code points, as closed ranges in ascending order. -/
abbrev Ranges := List (Nat × Nat)

def Ranges.has (ranges : Ranges) (c : Char) : Bool :=
  ranges.any fun range => range.1 ≤ c.toNat && c.toNat ≤ range.2

end RecordBinding.Text
