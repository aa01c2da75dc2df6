import RecordBinding.Decimal.Shortest

namespace RecordBinding.Decimal

/-- A digit string with the point after its first `point` digits, and at least one digit on both
sides of it. -/
def positional (digits : List Char) (point : Int) : List Char :=
  if point ≤ 0 then
    '0' :: '.' :: List.replicate (-point).toNat '0' ++ digits
  else
    let whole := point.toNat
    let padded := digits ++ List.replicate (whole - digits.length) '0'
    let fraction := padded.drop whole
    padded.take whole ++ '.' :: (if fraction.isEmpty then ['0'] else fraction)

/-- A digit string with the point after its first digit and the power of ten that makes up for
it. -/
def scientific (digits : List Char) (power : Int) : List Char :=
  let mantissa :=
    match digits with
    | [] => ['0']
    | [d] => [d]
    | d :: rest => d :: '.' :: rest
  let exponent := Nat.toDigits 10 power.natAbs
  mantissa ++ 'e' :: (if power < 0 then '-' else '+') ::
    (List.replicate (2 - exponent.length) '0' ++ exponent)

/-- A decimal as digits without trailing zeros, with the position of its point. -/
def Digits.write (d : Digits) : List Char :=
  let written := Nat.toDigits 10 d.digits
  let point := (written.length : Int) + d.exponent
  let digits := (written.reverse.dropWhile (· = '0')).reverse
  if -4 < point && point ≤ 16 then positional digits point else scientific digits (point - 1)

def text (x : Float) : String :=
  match decode x with
  | .notANumber => "nan"
  | .infinite negative => if negative then "-inf" else "inf"
  | .zero negative => if negative then "-0.0" else "0.0"
  | .finite negative value narrowBelow =>
      let digits := (shortest value narrowBelow).write
      String.ofList (if negative then '-' :: digits else digits)

end RecordBinding.Decimal
