import Scriptwright.Shell.Builtin.Basic

/-!
Commands that nobody waits for. Each is kept with the shell it was started from, and is run when
time has passed it or somebody asks for its result.
-/
namespace Scriptwright.Shell

def startJob (c : Command) : Run Unit := do
  let number ← newNumber
  let p ← process
  let nothing ← addChannel .nothing
  let started := { p with streams := (0, nothing) :: p.streams.filter (·.1 ≠ 0) }
  modify fun m => { m with jobs := m.jobs ++ [⟨number, c, started⟩] }
  change fun p => { p with lastJob := some number, status := 0 }

/-- Runs a job as of the time it was started; its status and the time of its end. It knows no other
jobs than those that it starts. -/
def runJob (r : Runner) (j : Job) : Run (Nat × Nat) := do
  let outer ← process
  let others := (← get).jobs
  modify fun m => { m with jobs := [] }
  change fun _ => j.process
  let result ← attempt (asChild (finish r) (r.run false j.command))
  let clock := (← process).clock
  change fun _ => outer
  modify fun m => { m with jobs := others ++ m.jobs }
  match result with
  | .ok status => return (status, clock)
  | .error jump => throw jump

def removeJob (number : Nat) : Run Unit :=
  modify fun m => { m with jobs := m.jobs.filter (·.number ≠ number) }

def setResult (number status : Nat) : Run Unit :=
  modify fun m => { m with results := (number, status) :: m.results }

def settleJobs (r : Runner) : Run Unit := do
  for j in (← get).jobs do
    let before ← get
    match ← attempt (runJob r j) with
    | .ok (status, clock) =>
      if before.process.clock < clock then set before
      else
        removeJob j.number
        setResult j.number status
    | .error (.killed number signal) => throw (.killed number signal)
    | .error _ => set before

def awaitJob (r : Runner) (j : Job) : Run Nat := do
  removeJob j.number
  let (status, clock) ← runJob r j
  setResult j.number status
  change fun p => { p with clock := max p.clock clock }
  return status

/-- Runs all jobs to their end without waiting for them. -/
def drainJobs (r : Runner) : Run Unit := do
  for j in (← get).jobs do
    removeJob j.number
    match ← attempt (runJob r j) with
    | .ok (status, _) => setResult j.number status
    | .error jump => throw jump

namespace Builtin

def waitFor (c : Call) : Run Nat := do
  match c.arguments with
  | [] =>
    for j in (← get).jobs do
      let _ ← awaitJob c.runner j
    return 0
  | names =>
    names.foldlM (fun _ name => do
      let m ← get
      let number ← match name.toNat? with
        | some n => pure n
        | none =>
          if name.startsWith "%" then pure ((m.process.lastJob).getD 0)
          else fail ("Illegal number: " ++ name)
      match m.jobs.find? (·.number = number), m.results.lookup number with
      | some j, _ => awaitJob c.runner j
      | none, some status =>
        if status > 256 then reportKilled (status - 256)
        return if status > 256 then status - 128 else status
      | none, none => return 127) 0

def signalTo (r : Runner) (signal : Option Signal) (name : String) : Run Nat := do
  settleJobs r
  let m ← get
  let number? : Option Nat := if name.startsWith "%" then m.process.lastJob else name.toNat?
  match number? with
  | none =>
    if name.startsWith "%" then fail ("No such job: " ++ name)
    else fail ("Illegal number: " ++ name)
  | some number =>
    match m.jobs.find? (·.number = number) with
    | some j =>
      match signal with
      | some s =>
        if s.isIdle then return 0
        removeJob j.number
        setResult j.number (256 + s.number)
        return 0
      | none => return 0
    | none =>
      if number = m.process.number || number = 0 then
        match signal with
        | some s => raise s
        | none => pure ()
        return 0
      else
        warn "No such process\n"
        return 1

def killUsage : String :=
  "Usage: kill [-s sigspec | -signum | -sigspec] [pid | job]... or\nkill -l [exitstatus]"

def kill (c : Call) : Run Nat := do
  match c.arguments with
  | [] => fail killUsage
  | "-l" :: rest =>
    match rest.head? with
    | none =>
      say "0\n"
      for s in Signal.all do say (s.name ++ "\n")
      return 0
    | some text =>
      let n ← natural text
      match Signal.ofNumber? (if n > 128 then n - 128 else n) with
      | some s =>
        say (s.name ++ "\n")
        return 0
      | none => fail ("Illegal number: " ++ text)
  | "-s" :: name :: targets =>
    match Signal.ofText? name with
    | some s => send (some s) targets
    | none => fail ("invalid signal number or name: " ++ name)
  | "--" :: targets => send (Signal.ofText? "TERM") targets
  | a :: targets =>
    match a.toList with
    | '-' :: cs =>
      let name := String.ofList cs
      if name = "0" || name = "EXIT" then send none targets
      else
        match Signal.ofText? name with
        | some s => send (some s) targets
        | none => fail ("Illegal option -" ++ String.ofList (cs.take 1))
    | _ => send (Signal.ofText? "TERM") (a :: targets)
where
  send (signal : Option Signal) (targets : List String) : Run Nat := do
    if targets.isEmpty then fail killUsage
    targets.foldlM (fun status target => do
      let s ← signalTo c.runner signal target
      return max status s) 0

end Builtin

end Scriptwright.Shell
