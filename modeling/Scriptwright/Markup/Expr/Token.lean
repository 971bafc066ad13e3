import Scriptwright.Markup.Tree

/-!
The smallest parts of expressions: gaps, names, quoted texts, numbers and operators. A `Reading`
takes characters from the front of a text or fails; of two readings joined by `<|>` the second is
tried where the first failed.
-/
namespace Scriptwright.Markup

abbrev Reading := StateT (List Char) Option

def isGap (c : Char) : Bool := c = ' ' || c = '\t' || c = '\r' || c = '\n'

namespace Reading

def gap : Reading Unit := modify (List.dropWhile isGap)

def someGap : Reading Unit := do
  match ← get with
  | c :: cs => if isGap c then set (cs.dropWhile isGap) else failure
  | [] => failure

def exact (word : String) : Reading Unit := do
  let cs ← get
  let w := word.toList
  if w.isPrefixOf cs then set (cs.drop w.length) else failure

def token (word : String) : Reading Unit := do
  gap
  exact word

def wordOperator (word : String) : Reading Unit := do
  token word
  match ← get with
  | c :: cs => if isGap c then set cs else failure
  | [] => failure

/-- Whether `reading` succeeds; a failure takes nothing. -/
def holds (reading : Reading Unit) : Reading Bool :=
  (do reading; return true) <|> return false

def run (p : Char → Bool) : Reading (List Char) := do
  let (found, rest) := (← get).span p
  set rest
  return found

/-- As often as `reading` succeeds, at most `fuel` times. -/
def many {α : Type} (reading : Reading α) : Nat → Reading (List α)
  | 0 => return []
  | fuel + 1 =>
    (do
      let a ← reading
      let more ← many reading fuel
      return a :: more) <|> return []

def firstOf {α : Type} (readings : List (Reading α)) : Reading α :=
  readings.foldr (fun r others => r <|> others) failure

end Reading

open Reading

def isNameStart (c : Char) : Bool := c.isAlpha || c = '_'

def isNameChar (c : Char) : Bool := c.isAlphanum || c = '_'

def exactName : Reading String := do
  match ← get with
  | c :: cs =>
    if isNameStart c then
      let (more, rest) := cs.span isNameChar
      set rest
      return String.ofList (c :: more)
    else failure
  | [] => failure

def name : Reading String := do
  gap
  exactName

def isQuoteMark (c : Char) : Bool := c = '"' || c = '\'' || c = '\x60'

/-- A text in quotes of one of three kinds; nothing is escaped. -/
def exactQuoted : Reading String := do
  match ← get with
  | q :: cs =>
    if isQuoteMark q then
      match cs.span (· != q) with
      | (content, _ :: rest) =>
        set rest
        return String.ofList content
      | (_, []) => failure
    else failure
  | [] => failure

def quotedText : Reading Operand := do
  gap
  return .text (← exactQuoted)

/-- The words are not delimited: `trueish` begins with `true`. -/
def truth : Reading Operand :=
  (do token "true"; return .bool true) <|> (do token "false"; return .bool false) <|>
    (do token "True"; return .bool true) <|> (do token "False"; return .bool false)

def digitsValue (ds : List Char) : Nat :=
  ds.foldl (fun n c => n * 10 + (c.toNat - '0'.toNat)) 0

/-- An optional minus sign, and digits without a leading zero or a single zero. -/
def wholeDigits : Reading (Bool × List Char) := do
  let negative ← holds (exact "-")
  match ← get with
  | '0' :: rest =>
    set rest
    return (negative, ['0'])
  | _ =>
    match ← run Char.isDigit with
    | [] => failure
    | ds => return (negative, ds)

def float : Reading Operand := do
  gap
  let (negative, whole) ← wholeDigits
  exact "."
  match ← run Char.isDigit with
  | [] => failure
  | places =>
    let x := Float.ofScientific (digitsValue (whole ++ places)) true places.length
    return .float (if negative then -x else x)

/-- A whole number has to fit 64 bits. -/
def int : Reading Operand := do
  gap
  let (negative, ds) ← wholeDigits
  let n : Int := digitsValue ds
  let n := if negative then -n else n
  if Number.isSigned n then return .int n else failure

def number : Reading Operand := float <|> int

def arithmeticOperator : Reading Arithmetic :=
  firstOf [(do token "+"; return .add), (do token "-"; return .sub), (do token "*"; return .mul),
    (do token "/"; return .div), (do token "%"; return .mod)]

def comparisonOperator : Reading Comparison :=
  firstOf [(do token "<="; return .lessEqual), (do token ">="; return .greaterEqual),
    (do token ">"; return .greater), (do token "<"; return .less),
    (do token "=="; return .equal), (do token "!="; return .unequal)]

def connective : Reading Connective :=
  (do wordOperator "or"; return .any) <|> (do wordOperator "and"; return .all)

end Scriptwright.Markup
