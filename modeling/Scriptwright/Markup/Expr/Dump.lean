import Scriptwright.Decimal.Layout
import Scriptwright.Markup.Tree
import Scriptwright.Text.Quoted
import Scriptwright.Text.Search

/-!
Expressions as messages about them spell them: every part with its name, nothing left out.
-/
namespace Scriptwright.Markup

def Arithmetic.word : Arithmetic → String
  | .add => "Add"
  | .sub => "Sub"
  | .mul => "Mul"
  | .div => "Div"
  | .mod => "Modulo"

def Comparison.word : Comparison → String
  | .equal => "Eq"
  | .unequal => "NotEq"
  | .less => "Lt"
  | .lessEqual => "Lte"
  | .greater => "Gt"
  | .greaterEqual => "Gte"

def Connective.word : Connective → String
  | .all => "And"
  | .any => "Or"

def dumpTruth (b : Bool) : String := if b then "true" else "false"

def dumpFields (name : String) (fields : List (String × String)) : String :=
  name ++ " \x7b " ++ Text.joinWith ", " (fields.map fun (n, text) => n ++ ": " ++ text) ++ " \x7d"

def dumpList (parts : List String) : String := "[" ++ Text.joinWith ", " parts ++ "]"

def dumpCall (name : String) (arguments : List String) : String :=
  dumpFields "FunctionCall" [("name", Text.quoted name),
    ("args", "\x7b" ++ Text.joinWith ", " arguments ++ "\x7d")]

/-- Joined parts as a template writes them, as far as they are texts and names. -/
def joinedSource (parts : List Operand) : String :=
  Text.joinWith " ~ " <| parts.map fun
    | .text content => "'" ++ content ++ "'"
    | .variable path => path.text
    | _ => "unknown"

def dumpPair (outer inner left right operator : String) : String :=
  outer ++ "(" ++ dumpFields inner [("lhs", left), ("rhs", right), ("operator", operator)] ++ ")"

mutual

def Operand.dump : Operand → String
  | .text content => "String(" ++ Text.quoted content ++ ")"
  | .int n => "Int(" ++ toString n ++ ")"
  | .float x => "Float(" ++ Decimal.detailed x ++ ")"
  | .bool b => "Bool(" ++ dumpTruth b ++ ")"
  | .variable path => "Ident(" ++ Text.quoted path.text ++ ")"
  | .call function arguments =>
    "FunctionCall(" ++ dumpCall function (dumpArguments arguments) ++ ")"
  | .array items => "Array(" ++ dumpList (dumpExprs items) ++ ")"
  | .joined parts =>
    "StringConcat(" ++ dumpFields "StringConcat" [("values", dumpList (dumpOperands parts))] ++ ")"
  | .arithmetic op left right => dumpPair "Math" "MathExpr" left.dump right.dump op.word
  | .comparison op left right => dumpPair "Logic" "LogicExpr" left.dump right.dump op.word
  | .connected op left right => dumpPair "Logic" "LogicExpr" left.dump right.dump op.word
  | .contained negated item container =>
    "In(" ++ dumpFields "In" [("lhs", item.dump), ("rhs", container.dump),
      ("negated", dumpTruth negated)] ++ ")"
  | .test negated path question arguments =>
    "Test(" ++ dumpFields "Test" [("ident", Text.quoted path.text), ("negated", dumpTruth negated),
      ("name", Text.quoted question), ("args", dumpList (dumpExprs arguments))] ++ ")"

def Expr.dump : Expr → String
  | .mk operand negated filters =>
    dumpFields "Expr" [("val", operand.dump), ("negated", dumpTruth negated),
      ("filters", dumpList (dumpFilters filters))]

def dumpOperands : List Operand → List String
  | [] => []
  | o :: os => o.dump :: dumpOperands os

def dumpExprs : List Expr → List String
  | [] => []
  | e :: es => e.dump :: dumpExprs es

def dumpArguments : List (String × Expr) → List String
  | [] => []
  | (name, e) :: rest => (Text.quoted name ++ ": " ++ e.dump) :: dumpArguments rest

def dumpFilters : List (String × List (String × Expr)) → List String
  | [] => []
  | (name, arguments) :: rest => dumpCall name (dumpArguments arguments) :: dumpFilters rest

end

end Scriptwright.Markup
