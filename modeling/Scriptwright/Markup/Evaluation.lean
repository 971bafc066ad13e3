import Scriptwright.Markup.Library
import Scriptwright.Markup.Operation
import Scriptwright.Markup.Question
import Scriptwright.Markup.Scope

/-!
Evaluating expressions. An expression may stand where a value, a condition or a number is asked
for, and what it counts as there depends on its form; `Meaning` holds all three answers. In
templates that write markup, strings from outside are escaped where they are printed. No function
reads a clock, the environment or chance, so a value depends on the scope alone.
-/
namespace Scriptwright.Markup

/-- What a whole rendering shares: the template's name, and whether it writes markup. -/
structure Setting where
  template : String
  escaping : Bool

def escapedMarkup (c : Char) : List Char :=
  if c = '&' then "&amp;".toList
  else if c = '<' then "&lt;".toList
  else if c = '>' then "&gt;".toList
  else if c = '"' then "&quot;".toList
  else if c = '\'' then "&#x27;".toList
  else if c = '/' then "&#x2F;".toList
  else [c]

def escapeMarkup (text : String) : String := String.ofList (text.toList.flatMap escapedMarkup)

def Operand.needsEscape : Operand → Bool
  | .text _ | .variable _ | .call _ _ => true
  | .joined parts => parts.any fun
    | .call _ _ => true
    | _ => false
  | _ => false

namespace Expr

/-- Filters that change nothing where they stand: one marks its input, one has been applied where a
value is missing. -/
def isMark (filter : String) : Bool := filter = "safe" || filter = "default"

def needsEscape (e : Expr) : Bool :=
  (e.operand.needsEscape || e.filters.any fun (name, _) => !isMark name) &&
    (e.filters.getLast?.map Prod.fst) != some "safe"

end Expr

abbrev Keys := List (String × String)

def quotedKey (key : String) : String × String := (key, ".\"" ++ key ++ "\"")

def bracketKey? : Value → Option (String × String)
  | .string s => some (quotedKey s)
  | .number n => some (n.text, "." ++ n.text)
  | _ => none

mutual

/-- The keys of some steps of the path spelled `whole`. -/
def stepKeys (setting : Setting) (scope : Scope) (whole : String) :
    List Step → Except Failure Keys
  | [] => .ok []
  | step :: rest => do
    let key ← stepKey setting scope whole step
    let keys ← stepKeys setting scope whole rest
    return key :: keys

def stepKey (setting : Setting) (scope : Scope) (whole : String) :
    Step → Except Failure (String × String)
  | .key name => .ok (name, "." ++ name)
  | .index digits => .ok (digits, "." ++ digits)
  | .quoted name => .ok (quotedKey name)
  | .named path =>
    match lookup setting scope path with
    | .error e => .error (.inIndex whole e)
    | .ok v =>
      match bracketKey? v with
      | some key => .ok key
      | none => .error (.badIndex path.text whole)

def lookup (setting : Setting) (scope : Scope) : Path → Except Failure Value
  | .mk text name steps => do
    let keys ← stepKeys setting scope text steps
    match scope.get? name (keys.map Prod.fst) with
    | some v => return v
    | none =>
      if text.toList.contains '[' then
        throw (.unknownPlace text setting.template (name ++ String.join (keys.map Prod.snd)))
      else throw (.unknownName text setting.template)

end

def applyFilter (name : String) (input : Value) (arguments : Except Failure Arguments) :
    Except Failure Value :=
  match filter? name with
  | none => .error (.unknownFilter name)
  | some f =>
    match arguments with
    | .error e => .error (.inFilter name e)
    | .ok arguments =>
      match f input arguments with
      | .ok v => .ok v
      | .error m => .error (.inFilter name (some (.misuse m)))

def applyFunction (name : String) (arguments : Except Failure Arguments) : Except Failure Value :=
  match function? name with
  | none => .error (.unknownFunction name)
  | some f =>
    match arguments with
    | .error e => .error (.inFunction name e)
    | .ok arguments =>
      match f arguments with
      | .ok v => .ok v
      | .error m => .error (.inFunction name (some (.misuse m)))

def ask (name : String) (subject : Option Value) (arguments : Except Failure (List Value)) :
    Except Failure Bool :=
  match question? name with
  | none => .error (.unknownQuestion name)
  | some f =>
    match arguments with
    | .error e => .error (.inQuestion name e)
    | .ok arguments =>
      match f subject arguments with
      | .ok b => .ok b
      | .error m => .error (.inQuestion name (some (.misuse m)))

def isInside (item container : Value) : Except Failure Bool :=
  match container, item with
  | .array items, item => .ok (items.any (sameValue item))
  | .string text, .string part => .ok (Text.hasPart text part)
  | .object entries, .string key => .ok (Entries.has entries key)
  | .string _, other => .error (.notInside other "string")
  | .object _, other => .error (.notInside other "object")
  | _, _ => .error .noContainer

/-- What an expression gives where a value, a condition or a number is asked for, depending on
whether text is escaped. An undefined number is `none`. -/
structure Meaning where
  value : Bool → Except Failure Value
  truth : Bool → Except Failure Bool
  number : Bool → Except Failure (Option Number)

namespace Meaning

def numberOr (complaint : Failure) : Value → Except Failure (Option Number)
  | .number n => .ok (some n)
  | _ => .error complaint

def noNumber (_ : Bool) : Except Failure (Option Number) := .error .notANumberExpression

def ofNumber (number : Bool → Except Failure (Option Number)) : Meaning where
  value escaping := (number escaping).map fun
    | some n => .number n
    | none => .string "NaN"
  truth escaping := (number escaping).map fun
    | some n => n.toFloat != 0.0
    | none => false
  number := number

def ofTruth (number : Bool → Except Failure (Option Number))
    (truth : Bool → Except Failure Bool) : Meaning where
  value escaping := (truth escaping).map .bool
  truth := truth
  number := number

def ofText (number : Bool → Except Failure (Option Number)) (text : Except Failure String) :
    Meaning where
  value _ := text.map .string
  truth _ := text.map (!·.isEmpty)
  number := number

/-- A value under a name or from a call; a condition asks for a truth value. -/
def ofSource (v : Except Failure Value) (notNumber notTruth : Failure) : Meaning where
  value _ := v
  truth _ := v.bind fun
    | .bool b => .ok b
    | _ => .error notTruth
  number _ := v.bind (numberOr notNumber)

def arithmetic (op : Markup.Arithmetic) (left right : Expr) (l r : Meaning) : Meaning :=
  .ofNumber fun escaping => do
    match ← l.number escaping, ← r.number escaping with
    | some a, some b => calculate (.zeroModulus left right) op a b
    | _, _ => return none

def comparison (op : Markup.Comparison) (l r : Meaning) : Meaning :=
  .ofTruth noNumber fun escaping => do
    match op with
    | .equal => return equalValues false (← l.value escaping) (← r.value escaping)
    | .unequal => return equalValues true (← l.value escaping) (← r.value escaping)
    | op =>
      match ← l.number escaping, ← r.number escaping with
      | some a, some b => return compareFloats op a.toFloat b.toFloat
      | _, _ => throw .undefinedComparison

/-- The second expression is looked at only if the first does not decide. -/
def connected (op : Connective) (l r : Meaning) : Meaning :=
  .ofTruth noNumber fun escaping => do
    match op with
    | .all => if ← l.truth escaping then r.truth escaping else return false
    | .any => if ← l.truth escaping then return true else r.truth escaping

def contained (negated : Bool) (item container : Meaning) : Meaning :=
  .ofTruth noNumber fun _ => do
    return (← isInside (← item.value false) (← container.value false)) != negated

inductive Start where
  | final (v : Value)
  | open (v : Value)

/-- `missing` is what a default filter right behind a name puts in the place of a missing value. -/
def start (operand : Operand) (negated : Bool) (missing : Option (Bool → Except Failure Value))
    (m : Meaning) (escaping : Bool) : Except Failure Start :=
  match operand with
  | .variable _ =>
    match m.value escaping, missing with
    | .ok .null, some d | .error _, some d => (d escaping).map .open
    | .ok v, _ => .ok (.open v)
    | .error e, none => if negated then .ok (.final (.bool true)) else .error e
  | .arithmetic _ _ _ =>
    match m.number escaping with
    | .ok (some n) => .ok (.open (.number n))
    | .ok none => .ok (.final (.string "NaN"))
    | .error e => .error e.headline
  | .comparison _ _ _ | .connected _ _ _ =>
    (m.truth escaping).map fun b => .open (.bool (b != negated))
  | _ => (m.value escaping).map .open

/-- A value behind its filters: perhaps negated, and escaped where that is due. -/
def finish (e : Expr) (escaping : Bool) (v : Value) : Value :=
  if e.isNegated then .bool !v.isTruthy
  else
    match v with
    | .string s => if escaping && e.needsEscape then .string (escapeMarkup s) else v
    | v => v

/-- The meaning of an expression from those of its operand, its filters and its default. -/
def ofParts (e : Expr) (m : Meaning) (missing : Option (Bool → Except Failure Value))
    (filters : Value → Except Failure Value) : Meaning :=
  let value := fun escaping => do
    match ← start e.operand e.isNegated missing m escaping with
    | .final v => return v
    | .open v => return finish e escaping (← filters v)
  { value
    truth := fun escaping =>
      match e.operand with
      | .variable _ =>
        match value escaping with
        | .ok v => .ok v.isTruthy
        | .error _ => .ok false
      | _ => (m.truth escaping).map (· != e.isNegated)
    number := fun escaping =>
      if e.filters.isEmpty then m.number escaping
      else (value escaping).bind (numberOr .notANumberExpression) }

end Meaning

def joinText (source name : String) : Value → Except Failure String
  | .string s => .ok s
  | .number n => .ok n.text
  | _ => .error (.notJoinable source name)

mutual

def Operand.meaning (setting : Setting) (scope : Scope) : Operand → Meaning
  | .text content => .ofText (fun _ => .error (.textInArithmetic content)) (.ok content)
  | .int n => .ofNumber fun _ => .ok (some (.int n))
  | .float x => .ofNumber fun _ => .ok (some (.float x))
  | .bool b => .ofTruth (fun _ => .error (.truthInArithmetic b)) fun _ => .ok b
  | .variable path =>
    .ofSource (lookup setting scope path) (.notANumber path.text) .notANumberExpression
  | .call function arguments =>
    .ofSource (applyFunction function (argumentValues setting scope arguments))
      (.notANumberCall function) (.notATruth function)
  | .array items =>
    { value := fun escaping => (exprValues setting scope escaping items).map .array
      truth := fun _ => .ok !items.isEmpty
      number := Meaning.noNumber }
  | .joined parts =>
    .ofText (fun _ => .error (.joinedInArithmetic (joinedSource parts)))
      ((joinedTexts setting scope parts).map String.join)
  | .arithmetic op left right =>
    .arithmetic op left right (left.meaning setting scope) (right.meaning setting scope)
  | .comparison op left right =>
    .comparison op (left.meaning setting scope) (right.meaning setting scope)
  | .connected op left right =>
    .connected op (left.meaning setting scope) (right.meaning setting scope)
  | .contained negated item container =>
    .contained negated (item.meaning setting scope) (container.meaning setting scope)
  | .test negated path question arguments =>
    .ofTruth (fun _ => .error (.questionInArithmetic question)) fun _ =>
      (ask question (lookup setting scope path).toOption
        (exprValues setting scope false arguments)).map (· != negated)

def Expr.meaning (setting : Setting) (scope : Scope) : Expr → Meaning
  | .mk operand negated filters =>
    .ofParts (.mk operand negated filters) (operand.meaning setting scope)
      (defaultValue setting scope filters) (filterValue setting scope filters)

def joinedTexts (setting : Setting) (scope : Scope) : List Operand → Except Failure (List String)
  | [] => .ok []
  | part :: rest => do
    let text ← match part with
      | .text content => .ok content
      | .int n => .ok (toString n)
      | .float x => .ok (Decimal.plain x)
      | .call function arguments =>
        (applyFunction function (argumentValues setting scope arguments)).bind
          (joinText "function call" function)
      | .variable path => (lookup setting scope path).bind (joinText "ident" path.text)
      | _ => .ok ""
    let texts ← joinedTexts setting scope rest
    return text :: texts

def exprValues (setting : Setting) (scope : Scope) (escaping : Bool) :
    List Expr → Except Failure (List Value)
  | [] => .ok []
  | e :: es => do
    let v ← (e.meaning setting scope).value escaping
    let vs ← exprValues setting scope escaping es
    return v :: vs

/-- Arguments are not printed, so nothing in them is escaped. -/
def argumentValues (setting : Setting) (scope : Scope) :
    List (String × Expr) → Except Failure Arguments
  | [] => .ok []
  | (name, e) :: rest => do
    let v ← (e.meaning setting scope).value false
    let vs ← argumentValues setting scope rest
    return (name, v) :: vs

def filterValue (setting : Setting) (scope : Scope) :
    List (String × List (String × Expr)) → Value → Except Failure Value
  | [], v => .ok v
  | (name, arguments) :: rest, v => do
    let v ← if Expr.isMark name then .ok v
      else applyFilter name v (argumentValues setting scope arguments)
    filterValue setting scope rest v

/-- What the first of some filters puts in place of a missing value, if it gives a default. -/
def defaultValue (setting : Setting) (scope : Scope) :
    List (String × List (String × Expr)) → Option (Bool → Except Failure Value)
  | ("default", arguments) :: _ => some (defaultArgument setting scope arguments)
  | _ => none

def defaultArgument (setting : Setting) (scope : Scope) :
    List (String × Expr) → Bool → Except Failure Value
  | [], _ => .error .noDefault
  | (name, e) :: rest, escaping =>
    if name = "value" then (e.meaning setting scope).value escaping
    else defaultArgument setting scope rest escaping

end

end Scriptwright.Markup
