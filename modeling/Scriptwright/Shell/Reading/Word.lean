import Scriptwright.Shell.Octets
import Scriptwright.Shell.Reading.Source

/-!
Reading words. `commands` reads the commands of a substitution; it is a parameter because commands
hold words in turn.
-/
namespace Scriptwright.Shell.Reading

inductive Place where
  | word
  /-- The line that ends a text in the source. -/
  | mark
  | quotes
  /-- Behind the name in braces. -/
  | braces (quoted : Bool)
  | document
  | arithmetic (depth : Nat)
deriving DecidableEq

namespace Place

def isQuoted : Place → Bool
  | .word | .mark | .braces false => false
  | _ => true

def escapable : Place → List Char
  | .quotes | .arithmetic _ => "\\\"$\x60".toList
  | .braces _ => "\\\"$\x60\x7d".toList
  | .document => "\\$\x60".toList
  | .word | .mark => []

end Place

def endsWord (c : Char) : Bool := " \t\n;&|<>()".toList.contains c

def isSpecial (c : Char) : Bool := c.isDigit || "#?$!-*@".toList.contains c

def literal (quoted : Bool) (reversed : List Char) : List Part :=
  if reversed.isEmpty then [] else [.text quoted (String.ofList reversed.reverse)]

/-- What the signs behind a parameter's name say, and whether an operand follows them. -/
def change : Reading (Change × Bool) := do
  match ← char with
  | some '\x7d' => return (.plain, false)
  | some '%' => return (.dropBack (← doubled '%'), true)
  | some '#' => return (.dropFront (← doubled '#'), true)
  | some ':' =>
    let c ← char
    return (choice true c, c != some '\x7d')
  | c => return (choice false c, true)
where
  doubled (c : Char) : Reading Bool := do
    if (← peek) = some c then
      skip
      return true
    else return false
  choice (orNull : Bool) : Option Char → Change
    | some '-' => .default orNull
    | some '=' => .assigned orNull
    | some '?' => .required orNull
    | some '+' => .instead orNull
    | _ => .malformed

def peekSecond : Reading (Option Char) := do
  let _ ← peek
  return (← get).rest[1]?

/-- The name in braces and what is made of its value; with it, whether an operand follows. -/
def braced : Reading (String × Change × Bool) := do
  match ← peek with
  | none => return ("", .malformed, true)
  | some c =>
    if isNameStart c then changed (← taken isNameChar)
    else if c.isDigit then changed (← taken Char.isDigit)
    else if c = '\x7d' then return ("", .malformed, true)
    else
      skip
      if c = '#' then measured
      else if isSpecial c then changed c.toString
      else return ("", .malformed, true)
where
  changed (name : String) : Reading (String × Change × Bool) := do
    let (change, more) ← change
    return (name, change, more)
  finished (name : String) : Reading (String × Change × Bool) := do
    if (← peek) = some '\x7d' then
      skip
      return (name, .length, false)
    else return (name, .malformed, true)
  measured : Reading (String × Change × Bool) := do
    match ← peek with
    | none => return ("#", .malformed, true)
    | some c =>
      if isNameStart c then finished (← taken isNameChar)
      else if c.isDigit then finished (← taken Char.isDigit)
      else if c != '\x7d' && (← peekSecond) = some '\x7d' then
        skip
        if isSpecial c then finished c.toString else return ("", .malformed, true)
      else changed "#"

/-- The commands between backquotes; inside, a backslash keeps its meaning except in front of
signs. -/
def backquoted (quoted : Bool) : List Char → Nat → Reading (List Char)
  | _, 0 => fault "EOF in backquote substitution"
  | done, fuel + 1 => do
    match ← char with
    | none => fault "EOF in backquote substitution"
    | some '\x60' => return done.reverse
    | some '\\' =>
      match ← rawChar with
      | none => fault "EOF in backquote substitution"
      | some c =>
        if "\\\x60$".toList.contains c || (quoted && c = '"') then backquoted quoted (c :: done) fuel
        else backquoted quoted (c :: '\\' :: done) fuel
    | some c => backquoted quoted (c :: done) fuel

def singleQuoted : List Char → Nat → Reading (List Char)
  | _, 0 => fault "Unterminated quoted string"
  | done, fuel + 1 => do
    match ← rawChar with
    | none => fault "Unterminated quoted string"
    | some '\'' => return done.reverse
    | some c => singleQuoted (c :: done) fuel

def atEnd (place : Place) : Reading Unit :=
  match place with
  | .word | .mark | .document => return
  | .quotes | .braces true => fault "Unterminated quoted string"
  | .braces false => fault "Missing '\x7d'"
  | .arithmetic _ => fault "Missing '))'"

mutual

/-- The parts up to the end of a place; `done` holds the characters of the current one reversed. -/
def parts (commands : Reading Command) : Nat → Place → List Char → Reading (List Part)
  | 0, _, _ => fault "Unterminated quoted string"
  | fuel + 1, place, done => do
    let quoted := place.isQuoted
    let finished : Reading (List Part) := return literal quoted done
    let more (place : Place) (c : Char) : Reading (List Part) := do
      skip
      parts commands fuel place (c :: done)
    let behind (found : List Part) : Reading (List Part) := do
      return literal quoted done ++ found ++ (← parts commands fuel place [])
    match ← peek with
    | none => atEnd place; finished
    | some c =>
      match place, c with
      | .word, c | .mark, c =>
        if endsWord c then finished
        else if place = .mark && (c = '$' || c = '\x60') then more place c
        else
          match ← special commands fuel place c with
          | some found => behind found
          | none => more place c
      | .quotes, '"' => skip; finished
      | .braces _, '\x7d' => skip; finished
      | .arithmetic depth, '(' => more (.arithmetic (depth + 1)) c
      | .arithmetic depth, ')' =>
        if depth = 0 then
          if (← peekSecond) = some ')' then
            skip
            skip
            finished
          else more place c
        else more (.arithmetic (depth - 1)) c
      | _, c =>
        match ← special commands fuel place c with
        | some found => behind found
        | none => more place c

/-- The parts that a sign with a meaning of its own starts, if it has one here. -/
def special (commands : Reading Command) : Nat → Place → Char → Reading (Option (List Part))
  | 0, _, _ => return none
  | fuel + 1, place, c => do
    match c with
    | '\\' =>
      skip
      match ← rawChar with
      | none => return some [.text true "\\"]
      | some c =>
        if !place.isQuoted || place.escapable.contains c then return some [.text true c.toString]
        else return some [.text true (String.ofList ['\\', c])]
    | '\'' =>
      if place.isQuoted then return none
      else
        skip
        return some [.text true (String.ofList (← singleQuoted [] (← get).rest.length.succ))]
    | '"' =>
      match place with
      | .document | .arithmetic _ | .quotes => return none
      | _ =>
        skip
        match ← parts commands fuel .quotes [] with
        | [] => return some [.text true ""]
        | found => return some found
    | '\x60' =>
      skip
      let source ← backquoted place.isQuoted [] (← get).rest.length.succ
      return some [.output place.isQuoted (← inside source commands)]
    | '$' =>
      skip
      match ← peek with
      | some '(' =>
        skip
        if (← peek) = some '(' then
          skip
          return some [.arithmetic place.isQuoted (← parts commands fuel (.arithmetic 0) [])]
        else
          let c ← commands
          closed
          return some [.output place.isQuoted c]
      | some '\x7b' =>
        skip
        let (name, change, more) ← braced
        let operand ← if more then parts commands fuel (operandPlace place change) [] else pure []
        return some [.parameter place.isQuoted name change operand]
      | some c =>
        if isNameStart c then
          return some [.parameter place.isQuoted (← taken isNameChar) .plain []]
        else if isSpecial c then
          skip
          return some [.parameter place.isQuoted c.toString .plain []]
        else return some [.text place.isQuoted "$"]
      | none => return some [.text place.isQuoted "$"]
    | _ => return none
where
  operandPlace (place : Place) : Change → Place
    | .dropFront _ | .dropBack _ => .braces false
    | _ => .braces place.isQuoted
  closed : Reading Unit := do
    let s ← get
    match s.pushed with
    | some (.operator ")") => set { s with pushed := none }
    | some t => fault (t.label ++ " unexpected (expecting \")\")")
    | none => return

end

def word (commands : Reading Command) (place : Place) : Reading Word := do
  parts commands (2 * (← get).rest.length + 4) place []

end Scriptwright.Shell.Reading
