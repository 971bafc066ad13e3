import Scriptwright.Shell.Process
import Scriptwright.Text.Words
import Scriptwright.Validation.SyntaxCheck

/-!
Checking syntax with programs of the system. The script is written into a directory of its own,
the program for its language is run on it, and the directory is removed again. What programs do is
a parameter: the checker only says what to run and what the outcome means.
-/
namespace Scriptwright

/-- A program with its leading arguments; the path of the script comes last. -/
structure CheckerCommand where
  program : String
  arguments : List String
deriving DecidableEq, Repr

namespace CheckerCommand

def python (program : String) : CheckerCommand := ⟨program, ["-m", "py_compile"]⟩

def bash (program : String) : CheckerCommand := ⟨program, ["-n"]⟩

end CheckerCommand

structure ProgramRun where
  exit : Shell.Exit
  errors : ByteArray

inductive ProgramOutcome where
  /-- The system's words for why the program cannot be run. -/
  | notStarted (reason : String)
  | timedOut
  | finished (run : ProgramRun)

/-- The system that programs run on: its files, the directory for scratch files, and the outcome of
a command that is given arguments and a time limit in milliseconds. -/
structure Host where
  files : FileTree
  scratchRoot : String
  run : FileTree → CheckerCommand → List String → Nat → ProgramOutcome

/-- A time span as messages show it: in the largest unit that is not below one. -/
def spanText (milliseconds : Nat) : String :=
  if milliseconds = 0 then "0ns"
  else if milliseconds < 1000 then toString milliseconds ++ "ms"
  else
    let places := Moment.padded 3 (milliseconds % 1000)
    match Text.dropEndWhile (· == '0') places.toList with
    | [] => toString (milliseconds / 1000) ++ "s"
    | digits => toString (milliseconds / 1000) ++ "." ++ String.ofList digits ++ "s"

structure ProcessChecker where
  python : CheckerCommand
  bash : CheckerCommand
  timeout : Nat
  /-- Where scratch directories are made, if not where the system makes them. -/
  tempRoot : Option String

namespace ProcessChecker

def commandFor (p : ProcessChecker) : Language → CheckerCommand
  | .python => p.python
  | .bash => p.bash

def errorMarks : List String := ["SyntaxError", "syntax error"]

def verdictOf (language : Language) (r : ProgramRun) : Verdict :=
  let said := String.ofList (Text.trim (Text.lossy r.errors).toList)
  if r.exit = .status 0 ∧ !errorMarks.any (Text.hasPart said) then .passed
  else
    let detail :=
      if said ≠ "" then said
      else
        match r.exit with
        | .status code => "checker exited with status " ++ toString code
        | .signal => "checker terminated by signal"
    .failed (language.displayName ++ " syntax error: " ++ detail)

def skippedNotice (language : Language) (reason : String) : Verdict :=
  .unavailable (language.displayName ++ " syntax check skipped: " ++ reason)

def root (p : ProcessChecker) (host : Host) : String := p.tempRoot.getD host.scratchRoot

def scratchName (host : Host) (root : String) : Nat → Nat → String
  | n, 0 => Path.join root ("scrypgen-check-" ++ toString n)
  | n, fuel + 1 =>
    let path := Path.join root ("scrypgen-check-" ++ toString n)
    if host.files.contains path then scratchName host root (n + 1) fuel else path

/-- A directory below the root that does not exist yet. -/
def scratchDirectory (p : ProcessChecker) (host : Host) : String :=
  scratchName host (p.root host) 0 host.files.nodes.length

def check (p : ProcessChecker) (host : Host) (c : SyntaxCheck) :
    Except GenerationError Verdict := do
  let directory := p.scratchDirectory host
  let files ← (host.files.makeDirectory directory).mapError fun e =>
    .validation ("cannot create temp dir: " ++ e.message)
  let script := Path.join directory ("script." ++ c.language.extension)
  let files ← (files.writeText script c.code).mapError fun e =>
    .validation ("cannot write script: " ++ e.message)
  let command := p.commandFor c.language
  match host.run files command [script] p.timeout with
  | .notStarted reason =>
    return skippedNotice c.language ("could not run " ++ command.program ++ " (" ++ reason ++ ")")
  | .timedOut => return skippedNotice c.language ("timed out after " ++ spanText p.timeout)
  | .finished r => return verdictOf c.language r

def answersVersion (p : ProcessChecker) (host : Host) (command : CheckerCommand) : Bool :=
  match host.run host.files ⟨command.program, []⟩ ["--version"] p.timeout with
  | .finished r => r.exit = .status 0
  | _ => false

def canWriteScratch (p : ProcessChecker) (host : Host) : Bool :=
  (host.files.makeDirectory (p.scratchDirectory host)).isOk

def probe (p : ProcessChecker) (host : Host) (now : Moment) : ComponentHealth :=
  let python := p.answersVersion host p.python
  let bash := p.answersVersion host p.bash
  let tempDir := p.canWriteScratch host
  let details := some (Value.object [("python", .bool python), ("bash", .bool bash),
    ("tempDir", .bool tempDir)])
  if !tempDir || (!python && !bash) then
    .unhealthy now "validator" "No syntax checking is possible" details
  else if python && bash then .healthy now "validator" details
  else .degraded now "validator" "Some validation tools missing" details

def checker (p : ProcessChecker) (host : Host) : SyntaxChecker :=
  ⟨fun _ c => p.check host c, p.probe host⟩

end ProcessChecker

end Scriptwright
