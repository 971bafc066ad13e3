/-!
Shortest decimal digits of a binary floating point number: the fewest digits that read back as the
number, and of those the ones nearest to it. All arithmetic is exact, on natural numbers.
-/
namespace Scriptwright.Decimal

/-- A finite number without its sign: `mantissa * 2 ^ exponent`. -/
structure Binary where
  mantissa : Nat
  exponent : Int

def leadingBit : Nat := 0x10000000000000

def Binary.ofFloat (x : Float) : Binary :=
  let bits : Nat := x.toBits.toNat
  let fraction : Nat := bits % leadingBit
  let scale : Nat := bits / leadingBit % 2048
  if scale = 0 then ⟨fraction, -1074⟩ else ⟨fraction + leadingBit, (scale : Int) - 1075⟩

def isNegative (x : Float) : Bool := 0x8000000000000000 ≤ x.toBits.toNat

/-- A positive fraction `num / den`. -/
structure Ratio where
  num : Nat
  den : Nat

def Ratio.ofScaled (n : Nat) (base : Nat) (exponent : Int) : Ratio :=
  match exponent with
  | .ofNat k => ⟨n * base.pow k, 1⟩
  | .negSucc k => ⟨n, base.pow (k + 1)⟩

def Ratio.le (a b : Ratio) : Bool := a.num * b.den ≤ b.num * a.den

def Ratio.lt (a b : Ratio) : Bool := a.num * b.den < b.num * a.den

def Ratio.sub (a b : Ratio) : Ratio := ⟨a.num * b.den - b.num * a.den, a.den * b.den⟩

/-- The numbers that round to a given float: between its neighbours' midpoints, the midpoints
included when the mantissa is even. -/
structure Rounding where
  low : Ratio
  high : Ratio
  closed : Bool

def Binary.rounding (b : Binary) : Rounding where
  low :=
    if b.mantissa = leadingBit then Ratio.ofScaled (4 * b.mantissa - 1) 2 (b.exponent - 2)
    else Ratio.ofScaled (2 * b.mantissa - 1) 2 (b.exponent - 1)
  high := Ratio.ofScaled (2 * b.mantissa + 1) 2 (b.exponent - 1)
  closed := b.mantissa % 2 = 0

def Rounding.has (r : Rounding) (x : Ratio) : Bool :=
  if r.closed then r.low.le x && x.le r.high else r.low.lt x && x.lt r.high

/-- The power of ten of the leading digit, found by going down from `e`. -/
def leadingPower (x : Ratio) : Nat → Int → Int
  | 0, e => e
  | fuel + 1, e => if (Ratio.ofScaled 1 10 e).le x then e else leadingPower x fuel (e - 1)

structure Digits where
  digits : Nat
  power : Int

/-- The nearer of the two neighbours of `x` on the grid of multiples of `10 ^ power` that round
back; of two equally near the even one. -/
def onGrid? (x : Ratio) (r : Rounding) (power : Int) : Option Digits :=
  let scaled := match power with
    | .ofNat k => x.num / (x.den * Nat.pow 10 k)
    | .negSucc k => x.num * Nat.pow 10 (k + 1) / x.den
  let value := fun n => Ratio.ofScaled n 10 power
  let below := r.has (value scaled) && scaled != 0
  let above := r.has (value (scaled + 1))
  if below && above then
    let down := x.sub (value scaled)
    let up := (value (scaled + 1)).sub x
    if down.lt up || (!up.lt down && scaled % 2 = 0) then some ⟨scaled, power⟩
    else some ⟨scaled + 1, power⟩
  else if below then some ⟨scaled, power⟩
  else if above then some ⟨scaled + 1, power⟩
  else none

def firstGrid (x : Ratio) (r : Rounding) : Nat → Int → Digits
  | 0, power => ⟨0, power⟩
  | fuel + 1, power =>
    match onGrid? x r power with
    | some d => d
    | none => firstGrid x r fuel (power - 1)

def Digits.stripped : Nat → Digits → Digits
  | 0, d => d
  | fuel + 1, d =>
    if d.digits ≠ 0 ∧ d.digits % 10 = 0 then stripped fuel ⟨d.digits / 10, d.power + 1⟩ else d

/-- The shortest digits of the magnitude of a finite number other than zero. -/
def shortest (x : Float) : Digits :=
  let b := Binary.ofFloat x
  let ratio := Ratio.ofScaled b.mantissa 2 b.exponent
  (firstGrid ratio b.rounding 18 (leadingPower ratio 640 309)).stripped 18

end Scriptwright.Decimal
