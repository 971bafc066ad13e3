import Scriptwright.Shell.Command
import Scriptwright.Shell.Octets
import Scriptwright.Storage.FileTree

/-!
A shell at work: its variables, functions and streams, the files around it, and the jumps that leave
a command early. Time passes only where a program waits; what takes more steps than it is given
counts as going on forever.
-/
namespace Scriptwright.Shell

inductive Exit where
  | status (code : Nat)
  | signal
deriving DecidableEq, Repr

structure Variable where
  /-- Nothing for one that was only given marks. -/
  value : Option String
  exported : Bool := false
  fixed : Bool := false

inductive Channel where
  | nothing
  /-- Zeros without end. -/
  | zeros
  /-- Text to be read; one that is endless goes on behind it. -/
  | waiting (unread : List Char) (endless : Bool)
  | collecting (written : String)
  | file (place : Location) (position : Nat) (appends : Bool)

structure Process where
  number : Nat
  name : String
  /-- The positional parameters, from the first. -/
  arguments : List String := []
  bound : List (String × Variable) := []
  functions : List (String × Command) := []
  options : List Char := []
  /-- Commands for signals by their names; `EXIT` is the end of the shell. -/
  traps : List (String × String) := []
  /-- The traps of the shell around, in a shell that was started for a part of it. -/
  outerTraps : Option (List (String × String)) := none
  /-- Channels by the numbers of streams. -/
  streams : List (Nat × Nat) := []
  here : Location := Location.root
  /-- Permissions that new files do not get. -/
  mask : Nat := 0o022
  status : Nat := 0
  /-- The status of the last substitution in the current command. -/
  substituted : Nat := 0
  line : Nat := 1
  /-- The command that messages are from. -/
  speaker : Option String := none
  loops : Nat := 0
  calls : Nat := 0
  /-- Variables as they were before the functions that are running changed them. -/
  shadowed : List (List (String × Option Variable)) := []
  /-- The word that options are read from, and how many of its letters have been read. -/
  optionPlace : Nat × Nat := (1, 0)
  lastJob : Option Nat := none
  /-- The status from before the trap that is running. -/
  trapStatus : Option Nat := none
  clock : Nat := 0

structure Job where
  number : Nat
  command : Command
  process : Process

structure Machine where
  process : Process
  files : FileTree
  channels : List (Nat × Channel) := []
  nextChannel : Nat := 0
  documents : List (Nat × Word) := []
  nextDocument : Nat := 0
  jobs : List Job := []
  /-- Results of finished jobs. -/
  results : List (Nat × Nat) := []
  nextNumber : Nat := 0
  /-- Signals that a trap is waiting for. -/
  pending : List String := []
  steps : Nat
  /-- When the last of the programs ends that can still write to the outputs. -/
  heldUntil : Nat := 0

inductive Jump where
  | leaveLoop (levels : Nat)
  | nextTurn (levels : Nat)
  | leaveFunction
  | exit
  /-- An error that ends a shell. -/
  | fault
  | killed (process signal : Nat)
  /-- Nothing more will ever happen. -/
  | stuck

abbrev Run := ExceptT Jump (StateM Machine)

def attempt {α : Type} (x : Run α) : Run (Except Jump α) := fun m =>
  let (result, m) := x.run.run m
  (.ok result, m)

def process : Run Process := return (← get).process

def change (f : Process → Process) : Run Unit := modify fun m => { m with process := f m.process }

def setStatus (status : Nat) : Run Unit := change fun p => { p with status }

def spend : Run Unit := do
  match (← get).steps with
  | 0 => throw .stuck
  | steps + 1 => modify fun m => { m with steps }

namespace Process

def binding? (p : Process) (name : String) : Option Variable := p.bound.lookup name

def value? (p : Process) (name : String) : Option String :=
  (p.binding? name).bind (·.value)

def withVariable (p : Process) (name : String) (v : Option Variable) : Process :=
  let others := p.bound.filter (·.1 ≠ name)
  { p with bound := (v.map (name, ·)).toList ++ others }

def isOn (p : Process) (option : Char) : Bool := p.options.contains option

def environment (p : Process) : List (String × String) :=
  p.bound.filterMap fun (name, v) => if v.exported then v.value.map (name, ·) else none

end Process

def outputStream : Nat := 1

def errorStream : Nat := 2

end Scriptwright.Shell
