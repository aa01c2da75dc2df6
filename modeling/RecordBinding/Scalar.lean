import RecordBinding.Number
import RecordBinding.Text.Quoted

namespace RecordBinding

/-- A value without parts. -/
inductive Scalar where
  | null
  | bool (value : Bool)
  | int (value : Int)
  | float (value : Float)
  | str (value : String)

namespace Scalar

def number? : Scalar → Option Number
  | bool value => some (.int (if value then 1 else 0))
  | int value => some (.int value)
  | float value => some (.float value)
  | _ => none

/-- Whether two scalars are equal, numbers by their value. -/
def same : Scalar → Scalar → Bool
  | null, null => true
  | str a, str b => a == b
  | a, b =>
      match a.number?, b.number? with
      | some x, some y => x.same y
      | _, _ => false

def sameKind : Scalar → Scalar → Bool
  | null, null => true
  | bool _, bool _ => true
  | int _, int _ => true
  | float _, float _ => true
  | str _, str _ => true
  | _, _ => false

def identical (a b : Scalar) : Bool :=
  a.sameKind b && a.same b

/-- Whether two lists of scalars are equal item by item. -/
def sameList : List Scalar → List Scalar → Bool
  | [], [] => true
  | a :: as, b :: bs => a.same b && sameList as bs
  | _, _ => false

def text : Scalar → String
  | null => "None"
  | bool value => if value then "True" else "False"
  | int value => toString value
  | float value => Decimal.text value
  | str value => Text.quote value

end Scalar

end RecordBinding
