import Scriptwright.Shell.Octets
import Scriptwright.Storage.FileTree

/-!
Conditions about texts, numbers and files, written as a list of words.
-/
namespace Scriptwright.Shell.Condition

inductive Kind where
  | unary
  | binary
  | negation
  | conjunction
  | disjunction
  | opening
  | closing
deriving DecidableEq

def unaryOperators : List String :=
  ["-r", "-w", "-x", "-e", "-f", "-d", "-c", "-b", "-p", "-u", "-g", "-k", "-s", "-t", "-z", "-n",
    "-h", "-O", "-G", "-L", "-S"]

def binaryOperators : List String :=
  ["=", "!=", "<", ">", "-eq", "-ne", "-ge", "-gt", "-le", "-lt", "-nt", "-ot", "-ef"]

def kind? (word : String) : Option Kind :=
  if unaryOperators.contains word then some .unary
  else if binaryOperators.contains word then some .binary
  else
    match word with
    | "!" => some .negation
    | "-a" => some .conjunction
    | "-o" => some .disjunction
    | "(" => some .opening
    | ")" => some .closing
    | _ => none

structure Context where
  words : List String
  files : FileTree

/-- Runs through the words; the state is the number of the current one. -/
abbrev Asking := StateT Nat (Except String)

namespace Context

def word? (x : Context) (i : Nat) : Option String := x.words[i]?

def isOperand (x : Context) (i : Nat) : Bool :=
  match x.word? (i + 1), x.word? (i + 2) with
  | none, _ => true
  | some _, none => false
  | some s, some _ => kind? s = some .binary

/-- What the word at a place is, if it is no operand. -/
def kindAt? (x : Context) (i : Nat) : Option Kind :=
  match (x.word? i).bind kind? with
  | some .unary => if x.isOperand i then none else some .unary
  | some .opening => if (x.word? (i + 1)).isNone then none else some .opening
  | k => k

end Context

def number (text : String) : Except String Int :=
  let cs := (text.toList.dropWhile isSpace).reverse.dropWhile isSpace
  match integer? (String.ofList cs.reverse) with
  | some n => .ok n
  | none => .error ("Illegal number: " ++ text)

def devices : List String := ["/dev/null", "/dev/zero"]

def fileHolds (files : FileTree) (operator path : String) : Bool :=
  let isDevice := devices.contains path
  match files.find (toText path) with
  | .error _ => isDevice && ["-e", "-r", "-w", "-c"].contains operator
  | .ok .directory => ["-e", "-r", "-w", "-x", "-d", "-s", "-O", "-G"].contains operator
  | .ok (.file content executable) =>
    match operator with
    | "-e" | "-r" | "-w" | "-O" | "-G" => true
    | "-f" => !isDevice
    | "-c" => isDevice
    | "-s" => content.size ≠ 0
    | "-x" => executable
    | _ => false

def unaryHolds (files : FileTree) (operator operand : String) : Except String Bool :=
  match operator with
  | "-z" => return operand = ""
  | "-n" => return operand ≠ ""
  | "-t" => do
    let _ ← number operand
    return false
  | _ => return fileHolds files operator operand

def binaryHolds (files : FileTree) (operator a b : String) : Except String Bool := do
  match operator with
  | "=" => return a = b
  | "!=" => return a ≠ b
  | "<" => return a < b
  | ">" => return b < a
  | "-ef" =>
    match files.locate (toText a), files.locate (toText b) with
    | .ok x, .ok y => return x = y && (files.get? x).isSome
    | _, _ => return false
  | "-nt" | "-ot" => return false
  | _ =>
    let m ← number a
    let n ← number b
    match operator with
    | "-eq" => return m = n
    | "-ne" => return m ≠ n
    | "-ge" => return n ≤ m
    | "-gt" => return n < m
    | "-le" => return m ≤ n
    | _ => return m < n

def primary (x : Context) (nested : Asking Bool) : Asking Bool := do
  let i ← get
  match x.word? i, x.kindAt? i with
  | none, _ => return false
  | some _, some .opening =>
    set (i + 1)
    if x.kindAt? (i + 1) = some .closing then return false
    let holds ← nested
    let j := (← get) + 1
    set j
    if x.kindAt? j = some .closing then return holds
    else throw "closing paren expected"
  | some operator, some .unary =>
    set (i + 1)
    match x.word? (i + 1) with
    | some operand => unaryHolds x.files operator operand
    | none => throw (operator ++ ": argument expected")
  | some a, _ =>
    match x.word? (i + 1), x.kindAt? (i + 1) with
    | some operator, some .binary =>
      match x.word? (i + 2) with
      | some b =>
        set (i + 2)
        binaryHolds x.files operator a b
      | none => throw (operator ++ ": argument expected")
    | _, _ => return a ≠ ""

def negated (x : Context) (nested : Asking Bool) : Nat → Asking Bool
  | 0 => return false
  | fuel + 1 => do
    let i ← get
    if x.kindAt? i = some .negation then
      if (x.word? (i + 1)).isSome then
        set (i + 1)
        return !(← negated x nested fuel)
      else return true
    else primary x nested

def chained (x : Context) (operator : Kind) (one : Asking Bool) (combine : Bool → Bool → Bool) :
    Nat → Asking Bool
  | 0 => return false
  | fuel + 1 => do
    let a ← one
    let i ← get
    if x.kindAt? (i + 1) = some operator then
      set (i + 2)
      return combine a (← chained x operator one combine fuel)
    else return a

/-- The condition from the current word on; `depth` bounds its parentheses. -/
def whole (x : Context) : Nat → Asking Bool
  | 0 => return false
  | depth + 1 =>
    let size := x.words.length + 1
    let one := negated x (whole x depth) size
    chained x .disjunction (chained x .conjunction one and size) or size

/-- Whether a condition holds; conditions of three or four words are read by rules of their own. -/
def holds? (files : FileTree) : Nat → List String → Except String Bool
  | 0, _ => .ok false
  | fuel + 1, words =>
    match words with
    | [] => .ok false
    | [a, operator, b] =>
      if kind? operator = some .binary then binaryHolds files operator a b
      else if a = "(" && b = ")" then evaluated [operator]
      else if a = "!" then not <$> holds? files fuel [operator, b]
      else evaluated words
    | ["(", a, b, ")"] => evaluated [a, b]
    | ["!", a, b, c] => not <$> holds? files fuel [a, b, c]
    | words => evaluated words
where
  evaluated (words : List String) : Except String Bool := do
    let x : Context := ⟨words, files⟩
    let (holds, i) ← (whole x (words.length + 1)).run 0
    match x.word? i, x.word? (i + 1) with
    | some s, some _ =>
      throw (if s = "" then "unexpected operator" else s ++ ": unexpected operator")
    | _, _ => return holds

end Scriptwright.Shell.Condition
