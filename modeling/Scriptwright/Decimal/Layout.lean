import Scriptwright.Decimal.Shortest

/-!
Ways to write a finite float in its shortest digits: always positional, or with an exponent for
very large and very small numbers and a decimal point in all others.
-/
namespace Scriptwright.Decimal

def zeros (n : Nat) : String := String.ofList (List.replicate n '0')

def sign (x : Float) : String := if isNegative x then "-" else ""

/-- Digits with a point in front of the last `places` of them. -/
def withPoint (digits : String) (places : Nat) : String :=
  let cs := digits.toList
  let whole := cs.length - places
  String.ofList (cs.take whole) ++ "." ++ String.ofList (cs.drop whole)

/-- Positional, without a point when the number is whole. -/
def plain (x : Float) : String :=
  if x == 0.0 then sign x ++ "0"
  else
    let d := shortest x
    let digits := toString d.digits
    sign x ++
      match d.power with
      | .ofNat k => digits ++ zeros k
      | .negSucc k =>
        if k + 1 < digits.length then withPoint digits (k + 1)
        else "0." ++ zeros (k + 1 - digits.length) ++ digits

/-- Positional with a point for magnitudes from `10 ^ low` to below `1e16`, with an exponent for
all others. -/
def pointed (low : Int) (x : Float) : String :=
  if x == 0.0 then sign x ++ "0.0"
  else
    let d := shortest x
    let digits := toString d.digits
    let point : Int := digits.length + d.power
    sign x ++
      if 0 ≤ d.power ∧ point ≤ 16 then digits ++ zeros d.power.toNat ++ ".0"
      else if 0 < point ∧ point ≤ 16 then withPoint digits (-d.power).toNat
      else if low < point ∧ point ≤ 0 then "0." ++ zeros (-point).toNat ++ digits
      else
        let mantissa := if digits.length = 1 then digits else withPoint digits (digits.length - 1)
        mantissa ++ "e" ++ toString (point - 1)

def document (x : Float) : String := pointed (-5) x

def detailed (x : Float) : String := pointed (-4) x

end Scriptwright.Decimal
