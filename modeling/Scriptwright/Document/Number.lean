import Scriptwright.Value.Basic

/-!
Numbers of JSON text. Whole numbers of 64 bits stay whole; anything else becomes a float by one
scaling of its leading digits, which is not always the nearest float.
-/
namespace Scriptwright.Document

structure NumberText where
  negative : Bool
  whole : List Nat
  fraction : Option (List Nat)
  exponent : Option (Bool × List Nat)

def maxWord : Nat := 0xFFFFFFFFFFFFFFFF

/-- Digits added to `n` as long as the result stays a 64-bit word, and how many were left over. -/
def takeDigits (n : Nat) : List Nat → Nat × Nat
  | [] => (n, 0)
  | d :: ds => if n * 10 + d ≤ maxWord then takeDigits (n * 10 + d) ds else (n, ds.length + 1)

/-- The exponent as a 32-bit number; `none` when it has too many digits for one. -/
def smallExponent? (digits : List Nat) : Option Nat :=
  let n := digits.foldl (fun n d => n * 10 + d) 0
  if n < 0x80000000 then some n else none

def powerOfTen (k : Nat) : Float := Float.ofScientific 1 false k

/-- `x` scaled by a power of ten, in steps of at most `1e308`; `none` beyond the largest float. -/
def scaled? (x : Float) (exponent : Int) : Nat → Option Float
  | 0 => some x
  | fuel + 1 =>
    if exponent.natAbs ≤ 308 then
      if 0 ≤ exponent then
        let y := x * powerOfTen exponent.natAbs
        if y.isInf then none else some y
      else some (x / powerOfTen exponent.natAbs)
    else if x == 0.0 then some x
    else if 0 ≤ exponent then none
    else scaled? (x / powerOfTen 308) (exponent + 308) fuel

def withSign (negative : Bool) (x : Float) : Float := if negative then -x else x

def NumberText.float? (t : NumberText) : Option Float :=
  let (whole, dropped) := takeDigits 0 t.whole
  let fraction := t.fraction.getD []
  let (significand, ignored) := takeDigits whole fraction
  let point : Int := dropped - (fraction.length - ignored : Nat)
  match t.exponent with
  | none => (scaled? significand.toUInt64.toFloat point 4).map (withSign t.negative)
  | some (down, digits) =>
    match smallExponent? digits with
    | some e =>
      let exponent := if down then point - e else point + e
      (scaled? significand.toUInt64.toFloat exponent 4).map (withSign t.negative)
    | none =>
      if significand ≠ 0 ∧ !down then none else some (withSign t.negative 0.0)

/-- The number a text stands for; `none` when it is beyond the largest float. A negative zero is a
float. -/
def NumberText.number? (t : NumberText) : Option Number :=
  match t.fraction, t.exponent, takeDigits 0 t.whole with
  | none, none, (n, 0) =>
    if !t.negative then some (.int n)
    else if n = 0 ∨ 0x8000000000000000 < n then some (.float (-n.toUInt64.toFloat))
    else some (.int (-n))
  | _, _, _ => t.float?.map .float

end Scriptwright.Document
