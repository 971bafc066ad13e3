import Scriptwright.Shell.Command

/-!
Shell source while it is read: what is left of it, the number of the line, a token that was looked
at and put back, and the texts in the source that are still to come behind the line.
-/
namespace Scriptwright.Shell

inductive Token where
  | word (w : Word)
  | reserved (name : String)
  | operator (text : String)
  | newline
  /-- A redirection sign with the number of its stream. -/
  | redirect (stream : Nat) (sign : String)
  | finish

def Token.label : Token → String
  | .word _ => "word"
  | .reserved name | .operator name => "\"" ++ name ++ "\""
  | .newline => "newline"
  | .redirect _ _ => "redirection"
  | .finish => "end of file"

structure Awaited where
  number : Nat
  /-- The line that ends the text. -/
  mark : String
  literal : Bool
  /-- Whether tabs in front of its lines are dropped. -/
  dropsTabs : Bool

structure Source where
  rest : List Char
  line : Nat := 1
  pushed : Option Token := none
  awaited : List Awaited := []
  /-- The texts read so far, by their numbers. -/
  documents : List (Nat × Word) := []
  nextDocument : Nat := 0

structure ReadFault where
  line : Nat
  message : String

abbrev Reading := StateT Source (Except ReadFault)

namespace Reading

def fault {α : Type} (message : String) : Reading α := do
  throw ⟨(← get).line, "Syntax error: " ++ message⟩

def joinLines : Nat → Reading Unit
  | 0 => return
  | fuel + 1 => do
    match (← get).rest with
    | '\\' :: '\n' :: rest =>
      modify fun s => { s with rest, line := s.line + 1 }
      joinLines fuel
    | _ => return

def rawChar : Reading (Option Char) := do
  let s ← get
  match s.rest with
  | [] => return none
  | c :: rest =>
    set { s with rest, line := if c = '\n' then s.line + 1 else s.line }
    return some c

def peek : Reading (Option Char) := do
  joinLines (← get).rest.length
  return (← get).rest.head?

def char : Reading (Option Char) := do
  joinLines (← get).rest.length
  rawChar

def skip : Reading Unit := do
  let _ ← char

def takeWhile (test : Char → Bool) : Nat → Reading (List Char)
  | 0 => return []
  | fuel + 1 => do
    match ← peek with
    | some c =>
      if test c then
        skip
        return c :: (← takeWhile test fuel)
      else return []
    | none => return []

def taken (test : Char → Bool) : Reading String := do
  return String.ofList (← takeWhile test (← get).rest.length)

/-- Reads another text with the same numbering of texts in the source. -/
def inside {α : Type} (text : List Char) (read : Reading α) : Reading α := do
  let outer ← get
  set { outer with rest := text, pushed := none, awaited := [] }
  let a ← read
  let s ← get
  set { outer with documents := s.documents, nextDocument := s.nextDocument }
  return a

end Reading

end Scriptwright.Shell
