import Scriptwright.Shell.Evaluation
import Scriptwright.Validation.ProcessChecker

/-!
A system with a shell and the programs it knows.
-/
namespace Scriptwright.Shell

def maxSteps : Nat := 100000

def maxDepth : Nat := 8000

def runner : Runner := ⟨run maxDepth, expand maxDepth⟩

def firstVariables (here : Location) : List (String × Variable) :=
  let own (name value : String) : String × Variable := (name, { value := some value })
  let given (name value : String) : String × Variable :=
    (name, { value := some value, exported := true })
  [given "PATH" "/usr/local/sbin:/usr/local/bin:/usr/sbin:/usr/bin:/sbin:/bin",
    given "HOME" "/root", given "PWD" ("/" ++ here), own "IFS" " \t\n", own "OPTIND" "1",
    own "PPID" "1", own "PS1" "# ", own "PS2" "> ", own "PS4" "+ "]

def systemDirectories : List Location :=
  ["bin", "boot", "dev", "etc", "home", "lib", "media", "mnt", "opt", "proc", "root", "run", "sbin",
    "srv", "sys", "tmp", "usr", "usr/bin", "usr/lib", "usr/local", "usr/local/bin", "usr/sbin",
    "usr/share", "var", "var/log", "var/tmp"]

def programNames : List String :=
  utilities.map (·.1) ++ Utility.launchers.map (·.1) ++ shells ++ ["which"]

def withSystem (files : FileTree) : FileTree :=
  let known := systemDirectories.filter fun d => (files.get? d).isNone
  let programs := ["bin", "usr/bin"].flatMap fun d => programNames.map fun n =>
    (Location.inside d n, FileNode.file "\x7fELF".toUTF8 true)
  let accounts := ("etc/passwd", FileNode.file "root:x:0:0:root:/root:/bin/bash\n".toUTF8 false)
  { files with nodes := files.nodes ++ known.map (·, .directory) ++ accounts :: programs }

/-- A machine before its first command: there is no input, and both outputs are collected. -/
def firstMachine (files : FileTree) : Machine where
  process := {
    number := 100, name := "sh", bound := firstVariables files.here
    streams := [(0, 0), (1, 1), (2, 2)], here := files.here }
  files := withSystem files
  channels := [(0, .nothing), (1, .collecting ""), (2, .collecting "")]
  nextChannel := 3
  nextNumber := 101
  steps := maxSteps

def untilEnd (body : Run Unit) : Run Unit := do
  match ← attempt body with
  | .ok () | .error .exit | .error .fault | .error .leaveFunction | .error (.leaveLoop _) |
      .error (.nextTurn _) =>
    finish runner
    let p ← process
    drainJobs runner
    change fun _ => p
  | .error j => throw j

def outcome (limit : Nat) (result : Except Jump Unit) (m : Machine) : ProgramOutcome :=
  let errors := match m.channels.lookup errorStream with
    | some (.collecting written) => toBytes written
    | _ => .empty
  let elapsed := max m.process.clock m.heldUntil
  let late := limit = 0 ∨ (limit ≤ elapsed ∧ elapsed ≠ 0)
  match result with
  | .error .stuck => .timedOut
  | .error (.killed _ _) => if late then .timedOut else .finished ⟨.signal, errors⟩
  | _ => if late then .timedOut else .finished ⟨.status m.process.status, errors⟩

def runAlone (files : FileTree) (limit : Nat) (body : Run Unit) : ProgramOutcome :=
  let (result, m) := (untilEnd body).run.run (firstMachine files)
  outcome limit result m

def call (files : FileTree) (name : String) (arguments : List String) (limit : Nat) :
    ProgramOutcome :=
  let arguments := arguments.map ofText
  if shells.contains name then runAlone files limit (becomeShell runner name arguments)
  else if isProgram name then
    let asked := arguments = ["--version"] ∧ name ≠ "false"
    runAlone files limit do
      if asked then return
      let status ← startProgram runner name arguments
      setStatus status
  else .notStarted StorageError.notFound.message

def permissionDenied : String := "Permission denied (os error 13)"

/-- Runs a command; files of the user are no programs. -/
def runCommand (files : FileTree) (c : CheckerCommand) (arguments : List String) (limit : Nat) :
    ProgramOutcome :=
  let arguments := c.arguments ++ arguments
  if Text.hasPart c.program "/" then
    match systemName? c.program with
    | some name => call files name arguments limit
    | none =>
      match files.find c.program with
      | .ok _ => .notStarted permissionDenied
      | .error e => .notStarted e.message
  else if c.program.toList.contains '\x00' then .notStarted "nul byte found in provided data"
  else call files c.program arguments limit

def host (files : FileTree) : Host := ⟨files, "/tmp", runCommand⟩

end Scriptwright.Shell
