import Scriptwright.Shell.Expansion
import Scriptwright.Shell.Reading.Command

/-!
Signals: their numbers, names, and what a shell writes when one has killed a program. And scripts:
running source until the shell ends.
-/
namespace Scriptwright.Shell

structure Signal where
  number : Nat
  name : String
  description : String

namespace Signal

def all : List Signal :=
  [⟨1, "HUP", "Hangup"⟩, ⟨2, "INT", "Interrupt"⟩, ⟨3, "QUIT", "Quit"⟩,
    ⟨4, "ILL", "Illegal instruction"⟩, ⟨5, "TRAP", "Trace/breakpoint trap"⟩, ⟨6, "ABRT", "Aborted"⟩,
    ⟨7, "BUS", "Bus error"⟩, ⟨8, "FPE", "Floating point exception"⟩, ⟨9, "KILL", "Killed"⟩,
    ⟨10, "USR1", "User defined signal 1"⟩, ⟨11, "SEGV", "Segmentation fault"⟩,
    ⟨12, "USR2", "User defined signal 2"⟩, ⟨13, "PIPE", "Broken pipe"⟩,
    ⟨14, "ALRM", "Alarm clock"⟩, ⟨15, "TERM", "Terminated"⟩, ⟨16, "STKFLT", "Stack fault"⟩,
    ⟨17, "CHLD", "Child exited"⟩, ⟨18, "CONT", "Continued"⟩, ⟨19, "STOP", "Stopped (signal)"⟩,
    ⟨20, "TSTP", "Stopped"⟩, ⟨21, "TTIN", "Stopped (tty input)"⟩,
    ⟨22, "TTOU", "Stopped (tty output)"⟩, ⟨23, "URG", "Urgent I/O condition"⟩,
    ⟨24, "XCPU", "CPU time limit exceeded"⟩, ⟨25, "XFSZ", "File size limit exceeded"⟩,
    ⟨26, "VTALRM", "Virtual timer expired"⟩, ⟨27, "PROF", "Profiling timer expired"⟩,
    ⟨28, "WINCH", "Window changed"⟩, ⟨29, "IO", "I/O possible"⟩, ⟨30, "PWR", "Power failure"⟩,
    ⟨31, "SYS", "Bad system call"⟩]

def ofNumber? (n : Nat) : Option Signal := all.find? (·.number = n)

def ofText? (text : String) : Option Signal :=
  match text.toNat? with
  | some n => ofNumber? n
  | none => all.find? (·.name = text.toUpper)

def isIdle (s : Signal) : Bool := ["CHLD", "CONT", "URG", "WINCH"].contains s.name

end Signal

/-- Runs the rest of a source; each line is read when those before it have run. -/
def runLines (r : Runner) (tested : Bool) : Nat → Source → Run Unit
  | 0, _ => return
  | fuel + 1, s => do
    let known := (← get).nextDocument
    match Reading.line { s with nextDocument := known, documents := [] } with
    | .error f =>
      change fun p => { p with line := f.line }
      fail f.message
    | .ok (none, _) => return
    | .ok (some c, s) =>
      modify fun m =>
        { m with documents := s.documents ++ m.documents, nextDocument := s.nextDocument }
      if !(← process).isOn 'n' then r.run tested c
      runLines r tested fuel s

def runText (r : Runner) (tested : Bool) (source : String) : Run Unit :=
  runLines r tested (source.length + 1) { rest := source.toList }

/-- Runs the commands of a trap; the status stays what it was unless they end the shell. -/
def runTrap (r : Runner) (commands : String) : Run Unit := do
  let p ← process
  change fun p => { p with speaker := none, line := 1, trapStatus := some p.status }
  runText r false commands
  change fun q =>
    { q with status := p.status, speaker := p.speaker, line := p.line, trapStatus := p.trapStatus }

def finish (r : Runner) : Run Unit := do
  let p ← process
  match p.traps.lookup "EXIT" with
  | none => return
  | some commands =>
    change fun p => { p with traps := p.traps.filter (·.1 ≠ "EXIT") }
    match ← attempt (runTrap r commands) with
    | .ok () | .error .exit => return
    | .error (.killed number signal) => throw (.killed number signal)
    | .error .stuck => throw .stuck
    | .error .fault => setStatus 2
    | .error _ => setStatus p.status

def runPending (r : Runner) : Run Unit := do
  let m ← get
  if m.pending.isEmpty || m.process.outerTraps.isSome then return
  set { m with pending := [] }
  for name in m.pending do
    match (← process).traps.lookup name with
    | some commands => runTrap r commands
    | none => return

def raise (signal : Signal) : Run Unit := do
  let p ← process
  let traps := p.outerTraps.getD p.traps
  if signal.name = "STOP" || signal.name = "TSTP" then throw .stuck
  match if signal.name = "KILL" then none else traps.lookup signal.name with
  | some "" => return
  | some _ => modify fun m => { m with pending := m.pending ++ [signal.name] }
  | none => if signal.isIdle then return else throw (.killed p.number signal.number)

def newNumber : Run Nat := do
  let m ← get
  set { m with nextNumber := m.nextNumber + 1 }
  return m.nextNumber

def reportKilled (signal : Nat) : Run Unit := do
  match Signal.ofNumber? signal with
  | some s => if s.name ≠ "INT" && s.name ≠ "PIPE" then complain s.description
  | none => return

def asProgram (r : Runner) (name : String) (arguments : List String) (body : Run Unit) : Run Nat := do
  let outer ← process
  let number ← newNumber
  change fun p =>
    { number, name, arguments, bound := p.bound.filter (·.2.exported),
      streams := p.streams, here := p.here, mask := p.mask, clock := p.clock,
      traps := p.traps.filter (·.2 = "") }
  let ended ← attempt do
    let result ← attempt body
    match result with
    | .error (.killed number signal) => throw (.killed number signal)
    | .error .stuck => throw .stuck
    | _ => finish r
  let p ← process
  change fun _ => { outer with clock := max outer.clock p.clock }
  match ended with
  | .error (.killed victim signal) =>
    if victim = number then
      reportKilled signal
      return 128 + signal
    else throw (.killed victim signal)
  | .error j => throw j
  | .ok () => return p.status

def runShell (r : Runner) (name source : String) (arguments : List String) : Run Nat :=
  asProgram r name arguments (runText r false source)

end Scriptwright.Shell
