/-!
Shell commands as trees. A word is made of parts: literal text, values of parameters, output of
commands and results of arithmetic, each of them quoted or not.
-/
namespace Scriptwright.Shell

/-- What braces around a parameter make of its value. With `orNull`, an empty value counts as none. -/
inductive Change where
  | plain
  | length
  | default (orNull : Bool)
  | assigned (orNull : Bool)
  | required (orNull : Bool)
  | instead (orNull : Bool)
  | dropFront (longest : Bool)
  | dropBack (longest : Bool)
  | malformed

inductive FileMode where
  | input
  | output
  | append
  | both

mutual

inductive Part where
  | text (quoted : Bool) (content : String)
  | parameter (quoted : Bool) (name : String) (change : Change) (operand : List Part)
  /-- What commands write to their output. -/
  | output (quoted : Bool) (commands : Command)
  | arithmetic (quoted : Bool) (expression : List Part)

inductive Redirect where
  | file (stream : Nat) (mode : FileMode) (path : List Part)
  /-- To the same as another stream; a dash closes it. -/
  | copy (stream : Nat) (source : List Part)
  /-- A text that stands in the source, by its number. -/
  | document (stream number : Nat)

inductive Command where
  | nothing
  | simple (line : Nat) (settings : List (String × List Part)) (words : List (List Part))
      (redirects : List Redirect)
  | redirected (line : Nat) (command : Command) (redirects : List Redirect)
  | sequence (commands : List Command)
  | pipeline (stages : List Command)
  /-- A command that is not waited for. -/
  | aside (command : Command)
  /-- `second` if `first` succeeds. -/
  | both (first second : Command)
  /-- `second` if `first` fails. -/
  | either (first second : Command)
  | negate (command : Command)
  /-- A command in a shell of its own. -/
  | apart (command : Command)
  | branch (test yes no : Command)
  /-- The body as long as the test succeeds, or until it does. -/
  | loop (untilTrue : Bool) (test body : Command)
  /-- The body for each of the items, under a name. -/
  | forEach (line : Nat) (name : String) (items : List (List Part)) (body : Command)
  | choose (line : Nat) (subject : List Part) (branches : List (List (List Part) × Command))
  | define (name : String) (body : Command)

end

abbrev Word := List Part

instance : Inhabited Command := ⟨.nothing⟩

namespace Part

def isQuoted : Part → Bool
  | .text quoted _ | .parameter quoted _ _ _ | .output quoted _ | .arithmetic quoted _ => quoted

end Part

namespace Word

/-- The text of a word without any quoting or expansion. -/
def bare? : Word → Option String
  | [.text false s] => some s
  | _ => none

/-- The text of a word as it would be without quotes, as far as it is literal. -/
def literal (w : Word) : String :=
  String.join (w.map fun
    | .text _ s => s
    | _ => "")

def setting? : Word → Option (String × Word)
  | .text false s :: rest =>
    match s.toList.span (· != '=') with
    | (c :: name, _ :: value) =>
      if (c.isAlpha || c = '_') && name.all (fun d => d.isAlphanum || d = '_') then
        let value := String.ofList value
        some (String.ofList (c :: name), if value = "" then rest else .text false value :: rest)
      else none
    | _ => none
  | _ => none

end Word

namespace Command

def ofList : List Command → Command
  | [] => .nothing
  | [c] => c
  | cs => .sequence cs

end Command

end Scriptwright.Shell
