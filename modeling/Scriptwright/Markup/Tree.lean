import Scriptwright.Value.Basic

/-!
Templates as trees: expressions over named values, and the nodes of a template body. An expression
is an operand with filters behind it, and may be negated as a whole. Tags keep the dashes of their
delimiters, which decide on the blanks of the text around them.
-/
namespace Scriptwright.Markup

inductive Arithmetic where
  | add
  | sub
  | mul
  | div
  | mod
deriving DecidableEq, Repr

inductive Comparison where
  | equal
  | unequal
  | less
  | lessEqual
  | greater
  | greaterEqual
deriving DecidableEq, Repr

inductive Connective where
  | all
  | any
deriving DecidableEq, Repr

mutual

inductive Step where
  | key (name : String)
  | index (digits : String)
  | quoted (name : String)
  /-- The key or index that another path leads to. -/
  | named (path : Path)

inductive Path where
  | mk (text name : String) (steps : List Step)

end

namespace Path

def text : Path → String
  | mk text _ _ => text

def name : Path → String
  | mk _ name _ => name

def steps : Path → List Step
  | mk _ _ steps => steps

end Path

mutual

inductive Operand where
  | text (content : String)
  | int (value : Int)
  | float (value : Float)
  | bool (value : Bool)
  | variable (path : Path)
  | call (function : String) (arguments : List (String × Expr))
  | array (items : List Expr)
  /-- Texts and numbers written one behind the other. -/
  | joined (parts : List Operand)
  | arithmetic (op : Arithmetic) (left right : Expr)
  | comparison (op : Comparison) (left right : Expr)
  | connected (op : Connective) (left right : Expr)
  | contained (negated : Bool) (item container : Expr)
  /-- A question about the value of a path, such as whether there is one. -/
  | test (negated : Bool) (path : Path) (question : String) (arguments : List Expr)

inductive Expr where
  | mk (operand : Operand) (negated : Bool) (filters : List (String × List (String × Expr)))

end

abbrev ExprArguments := List (String × Expr)

instance : Inhabited Operand := ⟨.bool false⟩

namespace Expr

def ofOperand (operand : Operand) : Expr := .mk operand false []

instance : Inhabited Expr := ⟨.ofOperand default⟩

def operand : Expr → Operand
  | mk operand _ _ => operand

def isNegated : Expr → Bool
  | mk _ negated _ => negated

def filters : Expr → List (String × ExprArguments)
  | mk _ _ filters => filters

def negate : Expr → Expr
  | mk operand _ filters => mk operand true filters

end Expr

structure Dashes where
  before : Bool := false
  after : Bool := false

mutual

inductive Node where
  | text (content : List Char)
  /-- Text between raw tags. -/
  | raw (opening : Dashes) (content : List Char) (closing : Dashes)
  | comment (dashes : Dashes)
  | output (dashes : Dashes) (value : Expr)
  /-- Binds a name where it stands, or outside all loops. -/
  | assign (dashes : Dashes) (everywhere : Bool) (name : String) (value : Expr)
  | branch (dashes : Dashes) (condition : Expr) (yes : List Node) (rest : Alternative)
  /-- `body` for every item of the container, or `empty` when it has none. -/
  | loop (opening : Dashes) (key : Option String) (item : String) (container : Expr)
      (body empty : List Node) (closing : Dashes)
  /-- A body whose text goes through a filter. -/
  | filtered (opening : Dashes) (filter : String) (arguments : List (String × Expr))
      (body : List Node) (closing : Dashes)
  /-- Ends the turn of a loop. -/
  | skip (dashes : Dashes)
  /-- Ends a loop. -/
  | leave (dashes : Dashes)

inductive Alternative where
  | finish (dashes : Dashes)
  | elif (dashes : Dashes) (condition : Expr) (yes : List Node) (rest : Alternative)
  | otherwise (dashes : Dashes) (no : List Node) (closing : Dashes)

end

instance : Inhabited Node := ⟨.text []⟩

end Scriptwright.Markup
