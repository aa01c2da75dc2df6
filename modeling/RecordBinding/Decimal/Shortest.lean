namespace RecordBinding.Decimal

/-- A positive number `mantissa * 2 ^ exponent`. -/
structure Dyadic where
  mantissa : Nat
  exponent : Int

/-- What the bits of a double stand for. -/
inductive Decoded where
  | notANumber
  | infinite (negative : Bool)
  | zero (negative : Bool)
  | finite (negative : Bool) (value : Dyadic) (narrowBelow : Bool)

/-- Reads the sign, the exponent field and the fraction of a double. A power of two has a narrower
gap below it than above. -/
def decode (x : Float) : Decoded :=
  let bits := x.toBits.toNat
  let negative := bits >>> 63 == 1
  let field : Nat := (bits >>> 52) % (1 <<< 11)
  let fraction : Nat := bits % (1 <<< 52)
  if field == 2047 then
    if fraction == 0 then .infinite negative else .notANumber
  else if field == 0 then
    if fraction == 0 then .zero negative else .finite negative ⟨fraction, -1074⟩ false
  else
    .finite negative ⟨(1 <<< 52) + fraction, (field : Int) - 1075⟩ (fraction == 0 && field != 1)

/-- A decimal `digits * 10 ^ exponent`. -/
structure Digits where
  digits : Nat
  exponent : Int

/-- The least `j` up to `fuel` with `denominator ≤ numerator * 10 ^ j`. -/
def tenthsNeeded (numerator denominator : Nat) : Nat → Nat
  | 0 => 0
  | fuel + 1 =>
      if denominator ≤ numerator then 0
      else tenthsNeeded (numerator * 10) denominator fuel + 1

/-- The number of digits before the decimal point, negative when zeros follow the point. -/
def pointPosition (numerator denominator : Nat) : Int :=
  if denominator ≤ numerator then
    (Nat.toDigits 10 (numerator / denominator)).length
  else
    1 - (tenthsNeeded numerator denominator 400 : Int)

/-- The interval of a double over a common denominator: its value, its ends, and whether the ends
round to it. -/
structure Interval where
  low : Nat
  value : Nat
  high : Nat
  denominator : Nat
  closed : Bool

/-- The interval of reals that round to a double. -/
def Interval.ofDyadic (x : Dyadic) (narrowBelow : Bool) : Interval :=
  let up := x.exponent.toNat
  let down := (-x.exponent).toNat
  let below := if narrowBelow then 1 else 2
  { low := (4 * x.mantissa - below) <<< up
    value := (4 * x.mantissa) <<< up
    high := (4 * x.mantissa + 2) <<< up
    denominator := 4 <<< down
    closed := x.mantissa % 2 == 0 }

/-- The interval scaled so that the grid `10 ^ exponent` becomes the integers. -/
def Interval.scale (i : Interval) (exponent : Int) : Interval :=
  let times := Nat.pow 10 (-exponent).toNat
  { i with
    low := i.low * times
    value := i.value * times
    high := i.high * times
    denominator := i.denominator * Nat.pow 10 exponent.toNat }

def Interval.holds (i : Interval) (n : Nat) : Bool :=
  let point := n * i.denominator
  if i.closed then i.low ≤ point && point ≤ i.high else i.low < point && point < i.high

/-- Of the two integers beside the value, the nearer one that lies in the interval; of two equally
near ones the even one. -/
def Interval.nearest? (i : Interval) : Option Nat :=
  let floor := i.value / i.denominator
  let remainder := i.value % i.denominator
  match i.holds floor, i.holds (floor + 1) with
  | true, true =>
      if 2 * remainder < i.denominator || (2 * remainder == i.denominator && floor % 2 == 0) then
        some floor
      else some (floor + 1)
  | true, false => some floor
  | false, true => some (floor + 1)
  | false, false => none

/-- The first hit on the grids of `count`, `count + 1`, … digits. -/
def shortestFrom (i : Interval) (point : Int) (count : Nat) : Nat → Digits
  | 0 => ⟨i.value / i.denominator, 0⟩
  | fuel + 1 =>
      let exponent := point - count
      match (i.scale exponent).nearest? with
      | some n => ⟨n, exponent⟩
      | none => shortestFrom i point (count + 1) fuel

/-- The shortest decimal that rounds to a double; seventeen digits are always enough. -/
def shortest (x : Dyadic) (narrowBelow : Bool) : Digits :=
  let i := Interval.ofDyadic x narrowBelow
  shortestFrom i (pointPosition i.value i.denominator) 1 17

end RecordBinding.Decimal
