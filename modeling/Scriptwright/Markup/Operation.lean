import Scriptwright.Decimal.Shortest
import Scriptwright.Markup.Failure
import Scriptwright.Markup.Tree

/-!
What operators do to values. Whole numbers stay whole and within 64 bits, except that a quotient
is computed as a float; a float result that is not finite is undefined. Values are equal or not,
and only numbers are in an order.
-/
namespace Scriptwright.Markup

def WholeRange.holds : WholeRange → Int → Bool
  | .signed => Number.isSigned
  | .unsigned => Number.isUnsigned

def WholeRange.common? (a b : Int) : Option WholeRange :=
  [WholeRange.signed, .unsigned].find? fun range => range.holds a && range.holds b

/-- A whole result stays in the range of the numbers it comes from. -/
def wholeResult (range : WholeRange) (a : Int) (symbol : String) (b result : Int) :
    Except Failure (Option Number) :=
  if range.holds result then .ok (some (.int result)) else .error (.overflow a symbol b range)

/-- A float as a result; an infinite one and a missing one are undefined. -/
def finite? (x : Float) : Option Number := if x.isFinite then some (.float x) else none

/-- A quotient is whole again when nothing is left over; `none` stands for an undefined one. -/
def quotient (x y : Float) : Option Number :=
  let z := x / y
  if z.isFinite && z.round == z then some (.int z.toInt64.toInt) else finite? z

/-- What is left of `x` when whole multiples of `y` are taken away, with the sign of `x`. -/
def remainder (x y : Float) : Option Number :=
  if !x.isFinite || y.isNaN || y == 0.0 then none
  else if !y.isFinite then some (.float x)
  else
    let a := Decimal.Binary.ofFloat x
    let b := Decimal.Binary.ofFloat y
    let e := min a.exponent b.exponent
    let left := a.mantissa <<< (a.exponent - e).toNat % b.mantissa <<< (b.exponent - e).toNat
    let r := (Float.ofNat left).scaleB e
    some (.float (if Decimal.isNegative x then -r else r))

def calculateFloats (op : Arithmetic) (x y : Float) : Option Number :=
  match op with
  | .add => finite? (x + y)
  | .sub => finite? (x - y)
  | .mul => finite? (x * y)
  | .div => quotient x y
  | .mod => remainder x y

/-- Arithmetic on whole numbers; `onZero` is the failure of a remainder after multiples of zero. -/
def calculateWhole (onZero : Failure) (range : WholeRange) (op : Arithmetic) (a b : Int) :
    Except Failure (Option Number) :=
  match op with
  | .add => wholeResult range a "+" b (a + b)
  | .sub => wholeResult range a "-" b (a - b)
  | .mul => wholeResult range a "x" b (a * b)
  | .mod => if b = 0 then .error onZero else .ok (some (.int (a.tmod b)))
  | .div => .ok (quotient (Number.int a).toFloat (Number.int b).toFloat)

/-- Whole numbers that share no range are computed as floats. -/
def calculate (onZero : Failure) (op : Arithmetic) :
    Number → Number → Except Failure (Option Number)
  | .int a, .int b =>
    match WholeRange.common? a b with
    | some range => calculateWhole onZero range op a b
    | none => .ok (calculateFloats op (Number.int a).toFloat (Number.int b).toFloat)
  | a, b => .ok (calculateFloats op a.toFloat b.toFloat)

def compareFloats (op : Comparison) (x y : Float) : Bool :=
  match op with
  | .less => x < y
  | .lessEqual => x ≤ y
  | .greater => y < x
  | .greaterEqual => y ≤ x
  | .equal => x == y
  | .unequal => x != y

mutual

/-- Equality of values; the order of keys does not matter. -/
def sameValue : Value → Value → Bool
  | .null, .null => true
  | .bool a, .bool b => a == b
  | .string a, .string b => a == b
  | .array as, .array bs => sameItems as bs
  | .object as, .object bs => as.length == bs.length && sameEntries as bs
  | .number (.int a), .number (.int b) => a == b
  | .number (.float a), .number (.float b) => a == b
  | _, _ => false

def sameItems : List Value → List Value → Bool
  | [], [] => true
  | a :: as, b :: bs => sameValue a b && sameItems as bs
  | _, _ => false

def sameEntries : List (String × Value) → List (String × Value) → Bool
  | [], _ => true
  | (k, a) :: rest, bs =>
    (match List.lookup k bs with
      | some b => sameValue a b
      | none => false) && sameEntries rest bs

end

/-- Whether two values are equal, or unequal if `negate` is set. A number and something else are
neither. -/
def equalValues (negate : Bool) (a b : Value) : Bool :=
  match a, b with
  | .number m, .number n => (m.toFloat == n.toFloat) != negate
  | .number _, _ | _, .number _ => false
  | a, b => sameValue a b != negate

end Scriptwright.Markup
