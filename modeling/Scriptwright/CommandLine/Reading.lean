import Scriptwright.CommandLine.Option

/-!
Reading the words of a command line. Shared options stand before the command or behind it, options
of the command behind it; at each of the two places an option is given at most once.
-/
namespace Scriptwright.CommandLine

inductive Stop where
  | usage
  | help
  | version
deriving DecidableEq, Repr

/-- Names of options with their values; a switch has the empty value. -/
abbrev Given := List (String × String)

structure Reading where
  /-- Options before the command. -/
  outer : Given := []
  command : Option CommandName := none
  /-- Options behind the command. -/
  inner : Given := []
  operands : List String := []
  /-- The option whose value is the next word. -/
  pending : Option OptionSpec := none
  /-- Whether the remaining words are operands. -/
  literal : Bool := false

namespace Reading

def options (r : Reading) : List OptionSpec :=
  match r.command with
  | none => OptionSpec.shared
  | some c => c.options

def here (r : Reading) : Given := if r.command.isNone then r.outer else r.inner

def add (r : Reading) (name value : String) : Reading :=
  if r.command.isNone then { r with outer := (name, value) :: r.outer }
  else { r with inner := (name, value) :: r.inner }

/-- Takes an option with its value, once at each place. -/
def give (r : Reading) (o : OptionSpec) (value : String) : Except Stop Reading :=
  if (r.here.lookup o.name).isSome then .error .usage
  else if o.value.any (·.accepts value) || o.value.isNone then .ok (r.add o.name value)
  else .error .usage

/-- Operands belong to a command, and there are no more than it has. -/
def operand (r : Reading) (w : String) : Except Stop Reading :=
  match r.command with
  | none => .error .usage
  | some c =>
    match c.operands[r.operands.length]? with
    | some (_, kind) =>
      if kind.accepts w then .ok { r with operands := r.operands ++ [w] } else .error .usage
    | none => .error .usage

/-- The first word that is no option names the command. -/
def plain (r : Reading) (w : String) : Except Stop Reading :=
  match r.command with
  | some _ => r.operand w
  | none =>
    match CommandName.ofWord? w with
    | some c => .ok { r with command := some c }
    | none => .error (if w = "help" then .help else .usage)

/-- An option by its long name, with the value behind an equals sign if there is one. -/
def long (r : Reading) (name : String) (attached : Option String) : Except Stop Reading :=
  match r.options.find? (·.name = name), attached with
  | some o, some value => if o.value.isSome then r.give o value else .error .usage
  | some o, none => if o.value.isSome then .ok { r with pending := some o } else r.give o ""
  | none, some _ => .error .usage
  | none, none =>
    if name = "help" then .error .help
    else if name = "version" ∧ r.command = none then .error .version
    else .error .usage

/-- Options by their letters; a letter that takes a value takes all that follows it. -/
def letters (r : Reading) : List Char → Except Stop Reading
  | [] => .ok r
  | c :: cs =>
    match r.options.find? (·.short = some c) with
    | none =>
      if c = 'h' then .error .help
      else if c = 'V' ∧ r.command = none then .error .version
      else .error .usage
    | some o =>
      if o.value.isNone then do
        let r ← r.give o ""
        r.letters cs
      else
        match cs with
        | [] => .ok { r with pending := some o }
        | '=' :: value => r.give o (String.ofList value)
        | value => r.give o (String.ofList value)

def cut (cs : List Char) : String × Option String :=
  match cs.span (· != '=') with
  | (name, []) => (String.ofList name, none)
  | (name, _ :: value) => (String.ofList name, some (String.ofList value))

/-- A word with a dash in front is no value; the dash alone is one. -/
def isValue (w : String) : Bool :=
  match w.toList with
  | '-' :: _ :: _ => false
  | _ => true

def step (r : Reading) (w : String) : Except Stop Reading :=
  match r.pending with
  | some o => if isValue w then { r with pending := none }.give o w else .error .usage
  | none =>
    if r.literal then r.operand w
    else
      match w.toList with
      | ['-', '-'] => .ok { r with literal := true }
      | '-' :: '-' :: cs => r.long (cut cs).1 (cut cs).2
      | '-' :: c :: cs => r.letters (c :: cs)
      | _ => r.plain w

end Reading

/-- Reads all words; the command has all its operands and no option lacks its value. -/
def Reading.ofWords (words : List String) : Except Stop Reading := do
  let r ← words.foldlM Reading.step {}
  match r.command, r.pending with
  | some c, none => if r.operands.length = c.operands.length then return r else throw .usage
  | _, _ => throw .usage

end Scriptwright.CommandLine
