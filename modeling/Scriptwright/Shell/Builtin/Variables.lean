import Scriptwright.Shell.Builtin.Basic

/-!
Settings of a shell: its options, its positional parameters, and the marks of its variables.
-/
namespace Scriptwright.Shell.Builtin

def shellOptions : List (Char × String) :=
  [('e', "errexit"), ('f', "noglob"), ('I', "ignoreeof"), ('i', "interactive"), ('m', "monitor"),
    ('n', "noexec"), ('s', "stdin"), ('x', "xtrace"), ('v', "verbose"), ('V', "vi"),
    ('E', "emacs"), ('C', "noclobber"), ('a', "allexport"), ('b', "notify"), ('u', "nounset")]

def switch (on : Bool) (letter : Char) : Run Unit :=
  change fun p =>
    let others := p.options.filter (· ≠ letter)
    { p with options := if on then letter :: others else others }

/-- Options in front of the positional parameters; nothing if no parameters are given. -/
def setOptions : List String → Run (Option (List String))
  | [] => return none
  | a :: rest => do
    match a.toList with
    | ['-', '-'] => return some rest
    | ['-'] =>
      switch false 'x'
      switch false 'v'
      return if rest.isEmpty then none else some rest
    | sign :: letters =>
      if sign = '-' || sign = '+' then
        if letters = ['o'] then named (sign = '-') rest
        else
          for letter in letters do
            if (shellOptions.lookup letter).isSome then switch (sign = '-') letter
            else fail ("Illegal option " ++ sign.toString ++ letter.toString)
          setOptions rest
      else return some (a :: rest)
    | [] => return some (a :: rest)
where
  named (on : Bool) : List String → Run (Option (List String))
    | name :: rest => do
      match shellOptions.find? (·.2 = name) with
      | some (letter, _) =>
        switch on letter
        setOptions rest
      | none => fail ("Illegal option " ++ (if on then "-o " else "+o ") ++ name)
    | [] => do
      let p ← process
      if on then say "Current option settings\n"
      for (letter, name) in shellOptions do
        let isOn := p.isOn letter
        if on then
          say (name ++ String.ofList (List.replicate (16 - name.length) ' ') ++
            (if isOn then "on" else "off") ++ "\n")
        else say ("set " ++ (if isOn then "-o " else "+o ") ++ name ++ "\n")
      return none

/-- Variables in the order of their names, as they could be written in source. -/
def listed (opening : String) (keep : Variable → Bool) : Run Unit := do
  let p ← process
  let kept := p.bound.filter fun (_, v) => keep v
  let sorted := kept.mergeSort fun a b => decide (a.1 ≤ b.1)
  for (name, v) in sorted do
    match v.value with
    | some value => say (opening ++ name ++ "=" ++ sourceText value ++ "\n")
    | none => if opening ≠ "" then say (opening ++ name ++ "\n")

def set (c : Call) : Run Nat := do
  if c.arguments.isEmpty then
    listed "" fun _ => true
    return 0
  match ← setOptions c.arguments with
  | some arguments => change fun p => { p with arguments, optionPlace := (1, 0) }
  | none => pure ()
  return 0

def marked (opening : String) (keep : Variable → Bool) (mark : Variable → Variable) (c : Call) :
    Run Nat := do
  let (letters, arguments) ← options ['p'] c.arguments
  if arguments.isEmpty || letters.contains 'p' then
    listed opening keep
    return 0
  for a in arguments do
    let name := String.ofList (a.toList.takeWhile (· != '='))
    checkName name
    match setting? a with
    | some (name, value) => setVariable name value
    | none => pure ()
    change fun p => p.withVariable name (some (mark ((p.binding? name).getD { value := none })))
  return 0

def exported : Builtin :=
  marked "export " (·.exported) fun v => { v with exported := true }

def fixed : Builtin :=
  marked "readonly " (·.fixed) fun v => { v with fixed := true }

def unset (c : Call) : Run Nat := do
  let (letters, names) ← options ['v', 'f'] c.arguments
  for name in names do
    if letters.contains 'f' then
      change fun p => { p with functions := p.functions.filter (·.1 ≠ name) }
    else
      checkName name
      if ((← process).binding? name).any (·.fixed) then fail (name ++ ": is read only")
      change fun p => p.withVariable name none
  return 0

def localVariables (c : Call) : Run Nat := do
  if (← process).calls = 0 then fail "not in a function"
  for a in c.arguments do
    let name := String.ofList (a.toList.takeWhile (· != '='))
    checkName name
    change fun p =>
      match p.shadowed with
      | frame :: outer =>
        if (frame.lookup name).isSome then p
        else { p with shadowed := ((name, p.binding? name) :: frame) :: outer }
      | [] => p
    match setting? a with
    | some (name, value) => setVariable name value
    | none => pure ()
  return 0

end Scriptwright.Shell.Builtin
