import Scriptwright.Shell.Octets

/-!
Whole number expressions of a shell, in 64 bits with sign: the operators that bind from loosest to
tightest are assignment, choice, `||`, `&&`, and those of `levels`.
-/
namespace Scriptwright.Shell.Arithmetic

inductive Sign where
  | number (n : Int64)
  | name (s : String)
  | operator (text : String)
  | unknown
  | finish
deriving DecidableEq

def operators : List String :=
  ["<<=", ">>=", "<<", ">>", "<=", ">=", "==", "!=", "&&", "||", "+=", "-=", "*=", "/=", "%=", "&=",
    "|=", "^=", "<", ">", "=", "!", "+", "-", "*", "/", "%", "&", "|", "^", "~", "?", ":", "(", ")"]

def largest : Nat := 0x7FFFFFFFFFFFFFFF

def digitValue (c : Char) : Nat :=
  if c.isDigit then c.toNat - '0'.toNat else c.toLower.toNat - 'a'.toNat + 10

def isHex (c : Char) : Bool := c.isDigit || ('a' ≤ c.toLower && c.toLower ≤ 'f')

def valueOf (base : Nat) (ds : List Char) : Nat := ds.foldl (fun n d => n * base + digitValue d) 0

/-- The number at the front: hexadecimal behind `0x`, octal behind another zero. -/
def natural (cs : List Char) : Nat × List Char :=
  match cs with
  | '0' :: x :: d :: rest =>
    if (x = 'x' || x = 'X') && isHex d then
      let (ds, rest) := (d :: rest).span isHex
      (valueOf 16 ds, rest)
    else octal cs
  | '0' :: _ => octal cs
  | cs =>
    let (ds, rest) := cs.span Char.isDigit
    (valueOf 10 ds, rest)
where
  octal (cs : List Char) : Nat × List Char :=
    let (ds, rest) := cs.span fun c => '0' ≤ c && c ≤ '7'
    (valueOf 8 ds, rest)

/-- The number that a text holds, with blanks around it; one that is too large counts as the
largest, and a text of blanks as zero. -/
def integer? (text : String) : Option Int64 :=
  let cs := text.toList.dropWhile isSpace
  let (negative, cs) := match cs with
    | '-' :: cs => (true, cs)
    | '+' :: cs => (false, cs)
    | cs => (false, cs)
  let (n, rest) := natural cs
  if !(rest.all isSpace) then none
  else
    let n := Int.ofNat (min n (if negative then largest + 1 else largest))
    some (Int64.ofInt (if negative then -n else n))

/-- The expression while it is read: what is left behind the current sign, and the settings made so
far, the latest first. -/
structure Progress where
  rest : List Char
  sign : Sign := .finish
  settings : List (String × Int64) := []

abbrev Calculation := StateT Progress (Except String)

def signOf (cs : List Char) : Sign × List Char :=
  match cs.dropWhile fun c => isBlank c || c = '\n' with
  | [] => (.finish, [])
  | c :: cs =>
    if c.isDigit then
      let (n, rest) := natural (c :: cs)
      (.number (Int64.ofInt (Int.ofNat (min n largest))), rest)
    else if isNameStart c then
      let (name, rest) := (c :: cs).span isNameChar
      (.name (String.ofList name), rest)
    else
      match operators.find? fun o => o.toList.isPrefixOf (c :: cs) with
      | some o => (.operator o, (c :: cs).drop o.length)
      | none => (.unknown, cs)

def advance : Calculation Unit :=
  modify fun p =>
    let (sign, rest) := signOf p.rest
    { p with sign, rest }

def fault {α : Type} (text problem : String) : Calculation α :=
  throw ("arithmetic expression: " ++ problem ++ ": \"" ++ text ++ "\"")

def ofBool (b : Bool) : Int64 := if b then 1 else 0

/-- The result of an operator between two numbers, but for a division by zero. -/
def combined? (operator : String) (a b : Int64) : Option Int64 :=
  match operator with
  | "*" => some (a * b)
  | "/" => if b = 0 then none else some (a / b)
  | "%" => if b = 0 then none else some (a % b)
  | "+" => some (a + b)
  | "-" => some (a - b)
  | "<<" => some (a <<< b)
  | ">>" => some (a >>> b)
  | "<" => some (ofBool (a < b))
  | "<=" => some (ofBool (a ≤ b))
  | ">" => some (ofBool (b < a))
  | ">=" => some (ofBool (b ≤ a))
  | "==" => some (ofBool (a = b))
  | "!=" => some (ofBool (a ≠ b))
  | "&" => some (a &&& b)
  | "^" => some (a ^^^ b)
  | _ => some (a ||| b)

def levels : List (List String) :=
  [["|"], ["^"], ["&"], ["==", "!="], ["<=", ">=", "<", ">"], ["<<", ">>"], ["+", "-"],
    ["*", "/", "%"]]

structure Context where
  text : String
  lookup : String → Except String Int64

def Context.value (x : Context) (name : String) : Calculation Int64 := do
  match (← get).settings.lookup name with
  | some n => return n
  | none => x.lookup name

def apply (x : Context) (idle : Bool) (operator : String) (a b : Int64) : Calculation Int64 :=
  if idle then return b
  else
    match combined? operator a b with
    | some n => return n
    | none => fault x.text "division by zero"

/-- The operator that sets a variable to a result, without the equals sign. -/
def assignment? : Sign → Option String
  | .operator "=" => some ""
  | .operator o =>
    if o.length ≥ 2 && o.endsWith "=" && !(["<=", ">=", "==", "!="].contains o) then
      some (o.dropEnd 1).toString
    else none
  | _ => none

mutual

/-- An expression from the current sign on; in an idle one nothing is looked up or set. -/
def expression (x : Context) : Nat → Bool → Calculation Int64
  | 0, _ => fault x.text "expecting primary"
  | fuel + 1, idle => do
    let p ← get
    match p.sign, assignment? (signOf p.rest).1 with
    | .name name, some operator =>
      advance
      advance
      let n ← expression x fuel idle
      if idle then return n
      let n ← if operator = "" then pure n else apply x false operator (← x.value name) n
      modify fun p => { p with settings := (name, n) :: p.settings }
      return n
    | _, _ => choice x fuel idle

def choice (x : Context) : Nat → Bool → Calculation Int64
  | 0, _ => fault x.text "expecting primary"
  | fuel + 1, idle => do
    let a ← disjunction x fuel idle
    if (← get).sign = .operator "?" then
      advance
      let b ← expression x fuel (idle || a = 0)
      if (← get).sign ≠ .operator ":" then fault x.text "expecting ':'"
      advance
      let c ← choice x fuel (idle || a ≠ 0)
      return if a ≠ 0 then b else c
    else return a

def disjunction (x : Context) : Nat → Bool → Calculation Int64
  | 0, _ => fault x.text "expecting primary"
  | fuel + 1, idle => do
    let a ← conjunction x fuel idle
    if (← get).sign = .operator "||" then
      advance
      let b ← disjunction x fuel (idle || a ≠ 0)
      return ofBool (a ≠ 0 || b ≠ 0)
    else return a

def conjunction (x : Context) : Nat → Bool → Calculation Int64
  | 0, _ => fault x.text "expecting primary"
  | fuel + 1, idle => do
    let a ← chain x fuel idle levels
    if (← get).sign = .operator "&&" then
      advance
      let b ← conjunction x fuel (idle || a = 0)
      return ofBool (a ≠ 0 && b ≠ 0)
    else return a

def chain (x : Context) : Nat → Bool → List (List String) → Calculation Int64
  | 0, _, _ => fault x.text "expecting primary"
  | fuel + 1, idle, [] => primary x fuel idle
  | fuel + 1, idle, level :: tighter => do
    let a ← chain x fuel idle tighter
    chainFrom x fuel idle level tighter a

def chainFrom (x : Context) :
    Nat → Bool → List String → List (List String) → Int64 → Calculation Int64
  | 0, _, _, _, _ => fault x.text "expecting primary"
  | fuel + 1, idle, level, tighter, a => do
    match (← get).sign with
    | .operator o =>
      if level.contains o then
        advance
        let b ← chain x fuel idle tighter
        chainFrom x fuel idle level tighter (← apply x idle o a b)
      else return a
    | _ => return a

def primary (x : Context) : Nat → Bool → Calculation Int64
  | 0, _ => fault x.text "expecting primary"
  | fuel + 1, idle => do
    match (← get).sign with
    | .number n =>
      advance
      return n
    | .name name =>
      advance
      if idle then return 0 else x.value name
    | .operator "(" =>
      advance
      let n ← expression x fuel idle
      if (← get).sign ≠ .operator ")" then fault x.text "expecting ')'"
      advance
      return n
    | .operator "+" =>
      advance
      primary x fuel idle
    | .operator "-" =>
      advance
      return -(← primary x fuel idle)
    | .operator "~" =>
      advance
      return ~~~(← primary x fuel idle)
    | .operator "!" =>
      advance
      return ofBool ((← primary x fuel idle) = 0)
    | _ => fault x.text "expecting primary"

end

def whole (x : Context) : Calculation Int64 := do
  advance
  let n ← expression x (16 * x.text.length + 64) false
  if (← get).sign ≠ .finish then fault x.text "expecting EOF"
  return n

def evaluate (lookup : String → Except String Int64) (text : String) :
    Except String (Int64 × List (String × Int64)) := do
  let (n, p) ← (whole ⟨text, lookup⟩).run { rest := text.toList }
  return (n, p.settings.reverse)

end Scriptwright.Shell.Arithmetic
