import Scriptwright.Shell.Builtin.Basic

/-!
Leaving loops, functions and shells, traps, and running text as commands.
-/
namespace Scriptwright.Shell.Builtin

def exit (c : Call) : Run Nat := do
  match c.arguments.head? with
  | some text =>
    let n ← natural text
    setStatus (n % 256)
  | none => change fun p => { p with status := p.trapStatus.getD p.status }
  throw .exit

def leaveFunction (c : Call) : Run Nat := do
  match c.arguments.head? with
  | some text =>
    let n ← natural text
    setStatus (n % 256)
  | none => pure ()
  throw .leaveFunction

/-- Leaves as many loops as the argument says, but no more than there are. -/
def loopLevels (c : Call) : Run Nat := do
  let levels ← match c.arguments.head? with
    | some text =>
      let n ← natural text
      if n = 0 then fail ("Illegal number: " ++ text) else pure n
    | none => pure 1
  return min levels (← process).loops

def leaveLoop (c : Call) : Run Nat := do
  match ← loopLevels c with
  | 0 => return 0
  | n =>
    setStatus 0
    throw (.leaveLoop n)

def nextTurn (c : Call) : Run Nat := do
  match ← loopLevels c with
  | 0 => return 0
  | n =>
    setStatus 0
    throw (.nextTurn n)

def shift (c : Call) : Run Nat := do
  let n ← match c.arguments.head? with
    | some text => natural text
    | none => pure 1
  if (← process).arguments.length < n then fail "can't shift that many"
  change fun p => { p with arguments := p.arguments.drop n }
  return 0

def eval (c : Call) : Run Nat := do
  if c.arguments.isEmpty then return 0
  setStatus 0
  runText c.runner c.tested (Text.joinWith " " c.arguments)
  return (← process).status

def source (c : Call) : Run Nat := do
  match c.arguments.head? with
  | none => return 0
  | some name =>
    match (← filesHere).readText (pathOf name) with
    | .ok text =>
      let p ← process
      change fun p => { p with speaker := some name, line := 1, status := 0 }
      let result ← attempt (runText c.runner c.tested (ofText text))
      change fun q => { q with speaker := p.speaker }
      match result with
      | .error .leaveFunction | .ok () => return (← process).status
      | .error j => throw j
    | .error .isADirectory => return 0
    | .error e =>
      match e with
      | .notFound | .notADirectory => fail ("cannot open " ++ name ++ ": No such file")
      | e => fail ("cannot open " ++ name ++ ": " ++ plainReason e)

def condition? (text : String) : Option String :=
  if text = "0" || text.toUpper = "EXIT" then some "EXIT" else (Signal.ofText? text).map (·.name)

def trap (c : Call) : Run Nat := do
  let (_, arguments) ← options [] c.arguments
  match arguments with
  | [] =>
    let p ← process
    let names := "EXIT" :: Signal.all.map (·.name)
    for name in names do
      match p.traps.lookup name with
      | some commands => say ("trap -- " ++ sourceText commands ++ " " ++ name ++ "\n")
      | none => pure ()
    return 0
  | [one] => set one none
  | commands :: names =>
    let commands := if commands = "-" then none else some commands
    names.foldlM (fun status name => do
      let s ← set name commands
      return max status s) 0
where
  set (name : String) (commands : Option String) : Run Nat := do
    match condition? name with
    | none =>
      complain ("trap: " ++ name ++ ": bad trap")
      return 1
    | some name =>
      change fun p =>
        let others := p.traps.filter (·.1 ≠ name)
        { p with traps := (commands.map (name, ·)).toList ++ others }
      return 0

end Scriptwright.Shell.Builtin
