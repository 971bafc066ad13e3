import Scriptwright.Markup.Expr.Token

/-!
Reading expressions: values, calls, filters, arithmetic, comparisons, conditions and arrays. Choices
are ordered: an alternative that has matched is not given up later. Filters end a sum; arithmetic
behind them works on what they give.
-/
namespace Scriptwright.Markup
open Reading

def Arithmetic.bindsTighter : Arithmetic → Bool
  | .mul | .div | .mod => true
  | .add | .sub => false

def Connective.bindsTighter : Connective → Bool
  | .all => true
  | .any => false

/-- A chain of operations on two levels grouped from the left: `loose` waits for what binds
tighter. -/
def grouped {ι α : Type} (tighter : ι → Bool) (combine : ι → α → α → α) (loose : Option (α × ι))
    (tight : α) : List (ι × α) → α
  | [] =>
    match loose with
    | some (left, op) => combine op left tight
    | none => tight
  | (op, e) :: rest =>
    if tighter op then grouped tighter combine loose (combine op tight e) rest
    else
      let left := match loose with
        | some (left, before) => combine before left tight
        | none => tight
      grouped tighter combine (some (left, op)) e rest

def groupedOperands (first : Operand) (rest : List (Arithmetic × Operand)) : Operand :=
  grouped Arithmetic.bindsTighter
    (fun op a b => .arithmetic op (.ofOperand a) (.ofOperand b)) none first rest

def groupedSums (first : Expr) (rest : List (Arithmetic × Expr)) : Expr :=
  grouped Arithmetic.bindsTighter
    (fun op a b => .ofOperand (.arithmetic op a b)) none first rest

def groupedConditions (first : Expr) (rest : List (Connective × Expr)) : Expr :=
  grouped Connective.bindsTighter
    (fun op a b => .ofOperand (.connected op a b)) none first rest

def mergedTexts : List Operand → List Operand
  | .text a :: rest =>
    match mergedTexts rest with
    | .text b :: more => .text (a ++ b) :: more
    | more => if a.isEmpty then more else .text a :: more
  | part :: rest => part :: mergedTexts rest
  | [] => []

def joinedParts (parts : List Operand) : Operand :=
  match mergedTexts parts with
  | [] => .text ""
  | [.text content] => .text content
  | parts => .joined parts

/-- The arguments with one more; of two with one name the later counts. -/
def withArgument (done : ExprArguments) (name : String) (value : Expr) : ExprArguments :=
  match done with
  | [] => [(name, value)]
  | (n, v) :: rest => if n = name then (n, value) :: rest else (n, v) :: withArgument rest name value

/-- What of `start` was taken when `rest` is left. -/
def takenText (start rest : List Char) : String :=
  String.ofList (start.take (start.length - rest.length))

def dottedKey : Reading Step := do
  exact "."
  match ← run isNameChar with
  | [] => failure
  | key => return .key (String.ofList key)

def bracketIndex : Reading Step := do
  let (negative, ds) ← wholeDigits
  return .index (String.ofList (if negative then '-' :: ds else ds))

/-- A path: its gaps stand in front, none inside. -/
def exactPath : Nat → Reading Path
  | 0 => failure
  | fuel + 1 => do
    let start ← get
    let name ← exactName
    let inBrackets : Reading Step := do
      exact "["
      let step ← bracketIndex <|> (do return .quoted (← exactQuoted)) <|>
        (do return .named (← exactPath fuel))
      exact "]"
      return step
    let steps ← many (dottedKey <|> inBrackets) start.length
    return .mk (takenText start (← get)) name steps

def path (fuel : Nat) : Reading Path := do
  gap
  exactPath fuel

mutual

def arguments : Nat → Reading ExprArguments
  | 0 => failure
  | fuel + 1 => do
    token "("
    let first ← optional (argument fuel)
    let done ← match first with
      | none => pure []
      | some first => do
        let more ← many (do token ","; argument fuel) fuel
        let _ ← optional (token ",")
        pure ((first :: more).foldl (fun done (n, e) => withArgument done n e) [])
    token ")"
    return done

def argument : Nat → Reading (String × Expr)
  | 0 => failure
  | fuel + 1 => do
    let n ← name
    token "="
    let e ← value fuel
    return (n, e)

def call : Nat → Reading (String × ExprArguments)
  | 0 => failure
  | fuel + 1 => do
    let function ← name
    let given ← arguments fuel
    return (function, given)

/-- Questions about a value: a path, `is`, perhaps `not`, and a name with plain arguments. -/
def test : Nat → Reading Operand
  | 0 => failure
  | fuel + 1 => do
    let subject ← path fuel
    token "is"
    let negated := do
      token "not"
      let (question, given) ← question fuel
      return Operand.test true subject question given
    let plain := do
      let (question, given) ← question fuel
      return Operand.test false subject question given
    negated <|> plain

def question : Nat → Reading (String × List Expr)
  | 0 => failure
  | fuel + 1 => do
    let n ← name
    let given := do
      token "("
      let first ← value fuel
      let more ← many (do token ","; value fuel) fuel
      token ")"
      return first :: more
    match ← optional given with
    | some es => return (n, es)
    | none => return (n, [])

def basic : Nat → Reading Operand
  | 0 => failure
  | fuel + 1 =>
    firstOf [truth, test fuel, (do let (f, es) ← call fuel; return .call f es),
      (do return .variable (← path fuel)), number]

def operand : Nat → Reading Operand
  | 0 => failure
  | fuel + 1 =>
    (do
      token "("
      let inner ← sum fuel
      token ")"
      return inner) <|> basic fuel

def sum : Nat → Reading Operand
  | 0 => failure
  | fuel + 1 => do
    let first ← operand fuel
    let rest ← many (do return (← arithmeticOperator, ← operand fuel)) fuel
    return groupedOperands first rest

def filter : Nat → Reading (String × ExprArguments)
  | 0 => failure
  | fuel + 1 => do
    token "|"
    call fuel <|> (do return (← name, []))

def filteredSum : Nat → Reading Expr
  | 0 => failure
  | fuel + 1 => do
    let inner ← sum fuel
    let filters ← many (filter fuel) fuel
    return .mk inner false filters

def joinable : Nat → Reading Operand
  | 0 => failure
  | fuel + 1 =>
    firstOf [(do let (f, es) ← call fuel; return .call f es), number, quotedText,
      (do return .variable (← path fuel))]

def joined : Nat → Reading Operand
  | 0 => failure
  | fuel + 1 => do
    let first ← joinable fuel
    let another := do
      token "~"
      joinable fuel
    let second ← another
    let more ← many another fuel
    return joinedParts (first :: second :: more)

def filteredText : Nat → Reading Expr
  | 0 => failure
  | fuel + 1 => do
    let inner ← joined fuel <|> quotedText
    let filters ← many (filter fuel) fuel
    return .mk inner false filters

def comparison : Nat → Reading Expr
  | 0 => failure
  | fuel + 1 => do
    let sums (first : Expr) : Reading Expr := do
      let rest ← many (do return (← arithmeticOperator, ← filteredSum fuel)) fuel
      return groupedSums first rest
    let wholeSum := do sums (← filteredSum fuel)
    let text ← optional (filteredText fuel)
    let first ← match text with
      | some e => pure e
      | none => filteredSum fuel
    let contained := do
      let negated ← holds (wordOperator "not")
      token "in"
      let container ← filteredText fuel <|> filteredArray fuel <|>
        (do return .ofOperand (.variable (← path fuel)))
      return Expr.ofOperand (.contained negated first container)
    let compared := do
      let left ← if text.isSome then pure first else sums first
      let right := do
        let op ← comparisonOperator
        let e ← filteredText fuel <|> wholeSum
        return (op, e)
      match ← optional right with
      | some (op, e) => return Expr.ofOperand (.comparison op left e)
      | none => return left
    contained <|> compared

def condition : Nat → Reading Expr
  | 0 => failure
  | fuel + 1 =>
    (do
      let negated ← holds (wordOperator "not")
      let e ← comparison fuel
      return if negated then e.negate else e) <|>
    (do
      token "("
      let e ← logic fuel
      token ")"
      return e)

def logic : Nat → Reading Expr
  | 0 => failure
  | fuel + 1 => do
    let first ← condition fuel
    let rest ← many (do return (← connective, ← condition fuel)) fuel
    return groupedConditions first rest

/-- Conditions in square brackets, a comma after the last one allowed; no connective joins them. -/
def array : Nat → Reading Operand
  | 0 => failure
  | fuel + 1 => do
    token "["
    let items ← many (do let e ← condition fuel; token ","; return e) fuel
    let last ← optional (condition fuel)
    token "]"
    return .array (items ++ last.toList)

def filteredArray : Nat → Reading Expr
  | 0 => failure
  | fuel + 1 => do
    let inner ← array fuel
    let filters ← many (filter fuel) fuel
    return .mk inner false filters

def value : Nat → Reading Expr
  | 0 => failure
  | fuel + 1 => logic fuel <|> filteredArray fuel

end

def deep {α : Type} (reading : Nat → Reading α) : Reading α := do
  reading (16 * (← get).length + 32)

end Scriptwright.Markup
