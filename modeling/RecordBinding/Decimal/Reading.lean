import RecordBinding.Text.Blank
import RecordBinding.Text.Digit

namespace RecordBinding.Decimal

/-- The number `mantissa * 10 ^ exponent`, rounded to a double. Exponents far out of range are
settled without computing the power. -/
def scaled (mantissa : Nat) (exponent : Int) : Float :=
  let size := ((Nat.toDigits 10 mantissa).length : Int) + exponent
  if mantissa == 0 then 0.0
  else if size > 400 then 1.0 / 0.0
  else if size < -400 then 0.0
  else if exponent < 0 then Float.ofScientific mantissa true (-exponent).toNat
  else Float.ofScientific mantissa false exponent.toNat

/-- The digits of a list of characters, with the number of them. -/
def digitsValue (cs : List Char) : Nat :=
  cs.foldl (fun n c => 10 * n + (c.toNat - '0'.toNat)) 0

/-- Reads digits separated by single underscores, up to the first character that is neither;
gives the digits and the rest. Fails on an underscore that does not stand between digits. -/
def digitRun (afterDigit : Bool) : List Char → Option (List Char × List Char)
  | [] => some ([], [])
  | '_' :: c :: rest =>
      if afterDigit && c.isDigit then
        (digitRun true rest).map fun (digits, left) => (c :: digits, left)
      else none
  | c :: rest =>
      if c.isDigit then (digitRun true rest).map fun (digits, left) => (c :: digits, left)
      else if c = '_' then none
      else some ([], c :: rest)

/-- The value of a non-empty run of digits that ends the text, with an optional sign. -/
def exponentValue (cs : List Char) : Option Int := do
  let (negative, unsigned) :=
    match cs with
    | '-' :: rest => (true, rest)
    | '+' :: rest => (false, rest)
    | rest => (false, rest)
  let (digits, left) ← digitRun false unsigned
  if digits.isEmpty || !left.isEmpty then none
  else
    let value : Int := digitsValue digits
    some (if negative then -value else value)

/-- Reads the fraction after the digits before the point. -/
def fractionPart (cs : List Char) : Option (List Char × List Char) :=
  match cs with
  | '.' :: rest => digitRun false rest
  | rest => some ([], rest)

def unsignedValue (cs : List Char) : Option Float := do
  let (whole, afterWhole) ← digitRun false cs
  let (fraction, afterFraction) ← fractionPart afterWhole
  if whole.isEmpty && fraction.isEmpty then none
  else
    let exponent ←
      match afterFraction with
      | [] => some 0
      | c :: rest => if c = 'e' || c = 'E' then exponentValue rest else none
    some (scaled (digitsValue (whole ++ fraction)) (exponent - fraction.length))

/-- The value of an unsigned number, by name or in digits. -/
def magnitude (cs : List Char) : Option Float :=
  let name := String.ofList (cs.map Char.toLower)
  if name = "inf" || name = "infinity" then some (1.0 / 0.0)
  else if name = "nan" then some (0.0 / 0.0)
  else unsignedValue cs

/-- A digit of any script as the ASCII digit of the same value. -/
def plainDigit (c : Char) : Char :=
  match Text.digitValue? c with
  | some value => Char.ofNat ('0'.toNat + value)
  | none => c

/-- Whether a character may stand around a number: any blank, except that a text of ASCII characters
alone cannot have information separators there. -/
def isPadding (ascii : Bool) (c : Char) : Bool :=
  Text.isBlank c && !(ascii && 0x1c ≤ c.toNat && c.toNat ≤ 0x1f)

/-- The characters of a text without the padding at its ends. -/
def unpadded (cs : List Char) : List Char :=
  let padding := isPadding (cs.all fun c => c.toNat < 0x80)
  ((cs.dropWhile padding).reverse.dropWhile padding).reverse

def read? (s : String) : Option Float :=
  match (unpadded s.toList).map plainDigit with
  | '-' :: rest => (magnitude rest).map fun x => -x
  | '+' :: rest => magnitude rest
  | rest => magnitude rest

end RecordBinding.Decimal
