import Scriptwright.Decimal.Layout

/-!
The float nearest to a decimal number, and floats rounded to a number of places or of digits: the
exact value is rounded to the nearest decimal, and a tie goes to the even neighbour.
-/
namespace Scriptwright.Decimal

/-- Decimal exponents beyond this one, either way, leave the range of floats. -/
def farExponent : Int := 400

/-- The float nearest to `digits * 10 ^ exponent`; `none` if that is beyond the largest one. -/
def nearest? (digits : Nat) (exponent : Int) : Option Float :=
  let point := (Nat.toDigits 10 digits).length + exponent
  if digits = 0 ∨ point < -farExponent then some 0.0
  else if farExponent < point then none
  else
    let x := match exponent with
      | .ofNat e => Float.ofScientific digits false e
      | .negSucc e => Float.ofScientific digits true (e + 1)
    if x.isInf then none else some x

def roundedQuotient (num den : Nat) : Nat :=
  let down := num / den
  let rest := 2 * (num % den)
  if den < rest || (rest = den && down % 2 = 1) then down + 1 else down

/-- A positive ratio in units of `10 ^ power`, rounded. -/
def Ratio.inUnits (x : Ratio) (power : Int) : Nat :=
  match power with
  | .ofNat k => roundedQuotient x.num (x.den * Nat.pow 10 k)
  | .negSucc k => roundedQuotient (x.num * Nat.pow 10 (k + 1)) x.den

def magnitude (x : Float) : Ratio :=
  let b := Binary.ofFloat x
  Ratio.ofScaled b.mantissa 2 b.exponent

def padded (width : Nat) (digits : String) : String := zeros (width - digits.length) ++ digits

def withPlaces (places : Nat) (x : Float) : String :=
  let digits := padded (places + 1) (toString ((magnitude x).inUnits (-(places : Int))))
  if places = 0 then digits else withPoint digits places

/-- The leading digits of a magnitude, one more than `places`, and the power of ten of the first. -/
def leadingDigits (places : Nat) (x : Float) : Nat × Int :=
  if x == 0.0 then (0, 0)
  else
    let ratio := magnitude x
    let power := leadingPower ratio 640 309
    let n := ratio.inUnits (power - places)
    if n = Nat.pow 10 (places + 1) then (n / 10, power + 1) else (n, power)

def exponentText (power : Int) : String :=
  (if power < 0 then "-" else "+") ++ padded 2 (toString power.natAbs)

def withExponent (mark : String) (places : Nat) (x : Float) : String :=
  let (n, power) := leadingDigits places x
  let digits := padded (places + 1) (toString n)
  (if places = 0 then digits else withPoint digits places) ++ mark ++ exponentText power

def withoutZeros (digits : String) : String :=
  if digits.toList.contains '.' then
    let kept := digits.toList.reverse.dropWhile (· == '0')
    String.ofList ((match kept with
      | '.' :: whole => whole
      | kept => kept).reverse)
  else digits

/-- The magnitude with a number of digits that count, positional unless the number is very large or
very small. -/
def withDigits (mark : String) (digits : Nat) (x : Float) : String :=
  let count := max digits 1
  let (n, power) := leadingDigits (count - 1) x
  if -4 ≤ power ∧ power < (count : Int) then
    withoutZeros (withPlaces (((count : Int) - 1 - power).toNat) x)
  else
    let text := padded count (toString n)
    withoutZeros (if count = 1 then text else withPoint text (count - 1)) ++ mark ++
      exponentText power

end Scriptwright.Decimal
