import Scriptwright.Markup.Operation

/-!
The questions that templates can ask about the value of a path: whether it has one, and of which
kind it is. The library's question `matching`, about regular expressions, counts as unknown.
-/
namespace Scriptwright.Markup

/-- A question may be asked with so many arguments at most. -/
def checkArguments (question : String) (most : Nat) (arguments : List Value) :
    Except Misuse Unit :=
  if arguments.length ≤ most then .ok ()
  else if most = 0 then .error (.questionTakesNothing question)
  else .error (.tooManyArguments question arguments.length most)

def ofKind (question : String) (kind : Value → Bool) (subject : Option Value)
    (arguments : List Value) : Except Misuse Bool := do
  checkArguments question 0 arguments
  match subject with
  | some v => return kind v
  | none => throw (.undefinedSubject question)

def numberOf? : Value → Option Float
  | .number n => some n.toFloat
  | _ => none

def dividesFloat (divisor x : Float) : Bool :=
  match remainder x divisor with
  | some (.float r) => r == 0.0
  | _ => false

def oddness (subject : Option Value) (arguments : List Value) : Except Misuse Bool := do
  checkArguments "odd" 0 arguments
  match subject with
  | none => throw (.undefinedSubject "odd")
  | some v =>
    match numberOf? v with
    | some x => return !dividesFloat 2.0 x
    | none => throw (.wrongSubject "odd" "on a variable" "number")

def divisibility (subject : Option Value) (arguments : List Value) : Except Misuse Bool := do
  checkArguments "divisibleby" 1 arguments
  match subject with
  | none => throw (.undefinedSubject "divisibleby")
  | some v =>
    match numberOf? v, arguments.head?.bind numberOf? with
    | some x, some y => return dividesFloat y x
    | some _, none => throw (.wrongSubject "divisibleby" "with a parameter" "number")
    | none, _ => throw (.wrongSubject "divisibleby" "on a variable" "number")

def aboutTexts (question : String) (holds : List Char → List Char → Bool) (subject : Option Value)
    (arguments : List Value) : Except Misuse Bool := do
  checkArguments question 1 arguments
  match subject with
  | none => throw (.undefinedSubject question)
  | some (.string text) =>
    match arguments with
    | .string part :: _ => return holds part.toList text.toList
    | _ => throw (.wrongSubject question "with a parameter" "string")
  | some _ => throw (.wrongSubject question "on a variable" "string")

def question? : String → Option (Option Value → List Value → Except Misuse Bool)
  | "defined" => some fun subject arguments => do
    checkArguments "defined" 0 arguments
    return subject.isSome
  | "undefined" => some fun subject arguments => do
    checkArguments "undefined" 0 arguments
    return subject.isNone
  | "string" => some <| ofKind "string" fun
    | .string _ => true
    | _ => false
  | "number" => some <| ofKind "number" fun
    | .number _ => true
    | _ => false
  | "iterable" => some <| ofKind "iterable" fun
    | .array _ | .object _ => true
    | _ => false
  | "object" => some <| ofKind "object" fun
    | .object _ => true
    | _ => false
  | "odd" => some oddness
  | "even" => some fun subject arguments => (oddness subject arguments).map (!·)
  | "divisibleby" => some divisibility
  | "starting_with" => some (aboutTexts "starting_with" List.isPrefixOf)
  | "ending_with" => some (aboutTexts "ending_with" List.isSuffixOf)
  | "containing" => some (aboutTexts "containing" Text.occursIn)
  | _ => none

end Scriptwright.Markup
