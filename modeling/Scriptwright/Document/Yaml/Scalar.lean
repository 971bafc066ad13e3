import Scriptwright.Decimal.Rounded
import Scriptwright.Document.Yaml.Tag
import Scriptwright.Value.Basic

/-!
What the text of a plain YAML scalar stands for: null, a truth value, a number, or itself.
-/
namespace Scriptwright.Document.Yaml

def isNull (text : String) : Bool := ["null", "Null", "NULL", "~"].contains text

def truth? (text : String) : Option Bool :=
  if ["true", "True", "TRUE"].contains text then some true
  else if ["false", "False", "FALSE"].contains text then some false
  else none

def digitValue? (base : Nat) (c : Char) : Option Nat :=
  let n :=
    if '0' ≤ c ∧ c ≤ '9' then c.toNat - '0'.toNat
    else if 'a' ≤ c ∧ c ≤ 'f' then c.toNat - 'a'.toNat + 10
    else if 'A' ≤ c ∧ c ≤ 'F' then c.toNat - 'A'.toNat + 10
    else base
  if n < base then some n else none

def natural? (base : Nat) (cs : List Char) : Option Nat :=
  if cs.isEmpty then none
  else (cs.mapM (digitValue? base)).map fun ds => ds.foldl (fun n d => n * base + d) 0

/-- Several digits of which the first is a zero; that is no number. -/
def zeroFirst (cs : List Char) : Bool :=
  match cs with
  | '0' :: _ :: _ => cs.all Char.isDigit
  | _ => false

/-- A number without its sign, in base ten or in the base that its first two characters name. -/
def magnitude? (cs : List Char) : Option Nat :=
  match cs with
  | '0' :: 'x' :: ds => natural? 16 ds
  | '0' :: 'o' :: ds => natural? 8 ds
  | '0' :: 'b' :: ds => natural? 2 ds
  | _ => if zeroFirst cs then none else natural? 10 cs

def whole? (text : String) : Option Int :=
  match text.toList with
  | '+' :: cs => (magnitude? cs).map Int.ofNat
  | '-' :: cs => (magnitude? cs).map fun n => -Int.ofNat n
  | cs => (magnitude? cs).map Int.ofNat

def decimal? (cs : List Char) : Option (Nat × Int) := do
  let (whole, rest) := cs.span Char.isDigit
  let (fraction, rest) := match rest with
    | '.' :: more => more.span Char.isDigit
    | _ => ([], rest)
  if whole.isEmpty && fraction.isEmpty then none
  let digits ← natural? 10 (whole ++ fraction)
  let exponent ← match rest with
    | [] => some 0
    | c :: more =>
      if c = 'e' ∨ c = 'E' then
        match more with
        | '+' :: ds => (natural? 10 ds).map Int.ofNat
        | '-' :: ds => (natural? 10 ds).map fun n => -Int.ofNat n
        | ds => (natural? 10 ds).map Int.ofNat
      else none
  return (digits, exponent - fraction.length)

/-- A finite float; the infinities and the undefined value have no place in a document and become
null. -/
def float? (text : String) : Option Value :=
  let special := [".inf", ".Inf", ".INF"]
  let signed := ["+.inf", "+.Inf", "+.INF", "-.inf", "-.Inf", "-.INF", ".nan", ".NaN", ".NAN"]
  if (special ++ signed).contains text then some .null
  else
    match text.toList with
    | '-' :: cs => do
      let (digits, exponent) ← decimal? cs
      let x ← Decimal.nearest? digits exponent
      return .float (-x)
    | '+' :: cs => do
      let (digits, exponent) ← decimal? cs
      let x ← Decimal.nearest? digits exponent
      return .float x
    | cs => do
      let (digits, exponent) ← decimal? cs
      let x ← Decimal.nearest? digits exponent
      return .float x

def holdsWhole (n : Int) : Bool := Number.isSigned n || Number.isUnsigned n

/-- Whole numbers that are still read as such; a larger one is a float. -/
def readsWhole (n : Int) : Bool :=
  -0x80000000000000000000000000000000 ≤ n && n < 0x100000000000000000000000000000000

def unsigned (cs : List Char) : List Char :=
  match cs with
  | '+' :: cs | '-' :: cs => cs
  | cs => cs

/-- The value of a plain scalar; `none` for a whole number that no value can hold. -/
def plainValue? (text : String) : Option Value :=
  if text.isEmpty || isNull text then some .null
  else
    match truth? text with
    | some b => some (.bool b)
    | none =>
      match (whole? text).filter readsWhole with
      | some n => if holdsWhole n then some (.number (.int n)) else none
      | none =>
        if zeroFirst (unsigned text.toList) then some (.string text)
        else some ((float? text).getD (.string text))

/-- The value of a scalar with a tag that is not a local one. -/
def taggedValue? (tag text : String) : Option Value :=
  if tag = standardTag "bool" then (truth? text).map .bool
  else if tag = standardTag "int" then
    match whole? text with
    | some n => if holdsWhole n then some (.number (.int n)) else none
    | none => none
  else if tag = standardTag "float" then float? text
  else if tag = standardTag "null" then if isNull text then some .null else none
  else some (.string text)

/-- A whole number of 64 bits without sign; no minus stands in front, not even of zero. -/
def count? (text : String) : Option Nat := do
  let n ← match text.toList with
    | '+' :: cs => magnitude? cs
    | cs => magnitude? cs
  if Number.isUnsigned n then return n else none

end Scriptwright.Document.Yaml
