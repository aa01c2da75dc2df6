import RecordBinding.Decimal.Text

namespace RecordBinding

/-- An integer of any size, or a double. -/
inductive Number where
  | int (value : Int)
  | float (value : Float)

namespace Number

/-- A number on the extended line as a fraction with a positive denominator. -/
inductive Exact where
  | notANumber
  | minusInfinity
  | plusInfinity
  | fraction (numerator : Int) (denominator : Nat)

def exactFloat (x : Float) : Exact :=
  match Decimal.decode x with
  | .notANumber => .notANumber
  | .infinite negative => if negative then .minusInfinity else .plusInfinity
  | .zero _ => .fraction 0 1
  | .finite negative value _ =>
      let size : Nat := value.mantissa <<< value.exponent.toNat
      .fraction (if negative then -size else size) (1 <<< (-value.exponent).toNat)

def exact : Number → Exact
  | int value => .fraction value 1
  | float value => exactFloat value

/-- The order of two exact values; there is none when either is not a number. -/
def Exact.compare? : Exact → Exact → Option Ordering
  | .notANumber, _ => none
  | _, .notANumber => none
  | .minusInfinity, .minusInfinity => some .eq
  | .minusInfinity, _ => some .lt
  | _, .minusInfinity => some .gt
  | .plusInfinity, .plusInfinity => some .eq
  | .plusInfinity, _ => some .gt
  | _, .plusInfinity => some .lt
  | .fraction n d, .fraction m e => some (compare (n * (e : Int)) (m * (d : Int)))

def compare? (a b : Number) : Option Ordering :=
  a.exact.compare? b.exact

/-- Whether two numbers are one value. What is not a number has no order, yet it is one with itself. -/
def same (a b : Number) : Bool :=
  match a.exact, b.exact with
  | .notANumber, .notANumber => true
  | x, y => x.compare? y == some .eq

def toFloat : Number → Float
  | int value => Float.ofInt value
  | float value => value

def add : Number → Number → Number
  | int a, int b => int (a + b)
  | a, b => float (a.toFloat + b.toFloat)

def sub : Number → Number → Number
  | int a, int b => int (a - b)
  | a, b => float (a.toFloat - b.toFloat)

def text : Number → String
  | int value => toString value
  | float value => Decimal.text value

end Number

end RecordBinding
