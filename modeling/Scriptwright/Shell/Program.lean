import Scriptwright.Shell.Builtin.Output
import Scriptwright.Shell.Builtin.Variables
import Scriptwright.Shell.Utility.Bytes
import Scriptwright.Shell.Utility.Change
import Scriptwright.Shell.Utility.Columns
import Scriptwright.Shell.Utility.Difference
import Scriptwright.Shell.Utility.Editor
import Scriptwright.Shell.Utility.Finding
import Scriptwright.Shell.Utility.Launch
import Scriptwright.Shell.Utility.Listing
import Scriptwright.Shell.Utility.Order
import Scriptwright.Shell.Utility.Reckoning
import Scriptwright.Shell.Utility.Search

/-!
The programs of a system, and starting one by its name.
-/
namespace Scriptwright.Shell

def utilities : List (String × Utility) :=
  [("cat", Utility.cat), ("tac", Utility.tac), ("rev", Utility.rev), ("head", Utility.head),
    ("tail", Utility.tail), ("nl", Utility.nl), ("tee", Utility.tee), ("grep", Utility.grep),
    ("egrep", Utility.egrep), ("fgrep", Utility.fgrep), ("cut", Utility.cut), ("tr", Utility.tr),
    ("paste", Utility.paste), ("fold", Utility.fold), ("expand", Utility.expandTabs),
    ("wc", Utility.wc), ("seq", Utility.seq), ("sort", Utility.sort), ("uniq", Utility.uniq),
    ("comm", Utility.comm), ("basename", Utility.basename), ("dirname", Utility.dirname),
    ("realpath", Utility.realpath), ("readlink", Utility.readlink), ("ls", Utility.ls),
    ("stat", Utility.stat), ("find", Utility.find), ("mkdir", Utility.mkdir),
    ("rmdir", Utility.rmdir), ("rm", Utility.rm), ("touch", Utility.touch), ("cp", Utility.cp),
    ("mv", Utility.mv), ("chmod", Utility.chmod), ("mktemp", Utility.mktemp), ("sed", Utility.sed),
    ("expr", Utility.expr), ("od", Utility.od), ("cmp", Utility.cmp),
    ("diff", Utility.diff), ("base64", Utility.base64),
    ("sleep", Utility.sleep), ("yes", Utility.yes), ("uname", Utility.uname),
    ("id", Utility.identity), ("whoami", Utility.whoami), ("tty", Utility.tty),
    ("printenv", Utility.printenv), ("pwd", Utility.pwd), ("echo", Utility.echo),
    ("printf", Builtin.printf), ("test", Builtin.test false), ("[", Builtin.test true),
    ("sync", fun _ => return 0), ("true", fun _ => return 0),
    ("false", fun _ => return 1)]

def shells : List String := ["sh", "dash"]

def isProgram (name : String) : Bool :=
  (utilities.lookup name).isSome || (Utility.launchers.lookup name).isSome ||
    shells.contains name || name = "which"

def programDirectories : List String := ["/usr/bin", "/bin"]

/-- The name of a program of the system, if a path leads to one. -/
def systemName? (path : String) : Option String :=
  match Path.parent? path, Path.fileName? path with
  | some directory, some name =>
    if programDirectories.contains directory && isProgram name then some name else none
  | _, _ => none

def programPath? (name : String) : Run (Option String) := do
  let files ← filesHere
  let isThere (path : String) : Bool :=
    (systemName? path).isSome || match files.find (pathOf path) with
      | .ok (.file _ executable) => executable
      | _ => false
  if name.toList.contains '/' then
    return if (systemName? name).isSome || files.contains (pathOf name) then some name else none
  else
    let path := ((← process).value? "PATH").getD "/usr/bin:/bin"
    let directories := (Text.splitAt (· == ':') path.toList).map fun d =>
      if d.isEmpty then "." else String.ofList d
    return (directories.map fun d => Utility.below d name).find? isThere

def which : Utility :=
  Utility.withOptions "which" ⟨"as".toList, [], []⟩ 2 fun o => do
    let found ← o.operands.mapM programPath?
    if !o.has 's' then say (unlines (found.filterMap id))
    return if found.isEmpty || found.any (·.isNone) then 1 else 0

structure Invocation where
  options : List Char := []
  /-- Whether the commands are an argument themselves. -/
  direct : Bool := false
  rest : List String := []

/-- The arguments of a shell, or the option that it does not know. -/
def Invocation.ofWords : List String → Except String Invocation
  | [] => .ok {}
  | word :: rest =>
    match word.toList with
    | ['-'] | ['-', '-'] => .ok { rest }
    | '-' :: '-' :: _ => .error "Illegal option --"
    | '-' :: letters =>
      match letters.find? fun c => c ≠ 'c' && c ≠ 's' && (Builtin.shellOptions.lookup c).isNone with
      | some c => .error ("Illegal option -" ++ c.toString)
      | none => do
        let i ← ofWords rest
        return { i with options := letters.filter (· ≠ 'c') ++ i.options
                        direct := i.direct || letters.contains 'c' }
    | _ => .ok { rest := word :: rest }

def becomeShell (r : Runner) (name : String) (arguments : List String) : Run Unit := do
  let start (name : String) (arguments : List String) (options : List Char) (source : String) :
      Run Unit := do
    change fun p => { p with name, arguments, options }
    runText r false source
  let stop (message : String) : Run Unit := do
    complain (name ++ ": 0: " ++ message)
    setStatus 2
  match Invocation.ofWords arguments with
  | .error message => stop message
  | .ok i =>
    match i.direct, i.rest with
    | true, [] => stop "-c requires an argument"
    | true, source :: rest => start (rest.headD name) (rest.drop 1) i.options source
    | false, [] =>
      let (text, endless) ← takeAll 0
      start name [] i.options text
      if endless then throw .stuck
    | false, path :: rest =>
      match (← filesHere).find (pathOf path) with
      | .ok (.file content _) => start path rest i.options (ofBytes content)
      | .ok .directory => return
      | .error _ => stop ("cannot open " ++ path ++ ": No such file")

def startShell (r : Runner) (name : String) (arguments : List String) : Run Nat :=
  asProgram r name [] (becomeShell r name arguments)

def asUtility (name : String) (run : Utility) (arguments : List String) : Run Nat := do
  let p ← process
  change fun p => { p with name := name, speaker := none }
  let result ← attempt (run arguments)
  change fun q => { q with name := p.name, speaker := p.speaker }
  match result with
  | .ok status => return status
  | .error .fault => return 2
  | .error j => throw j

def startFile (r : Runner) (path : String) (arguments : List String) : Run Nat := do
  let files ← filesHere
  match files.find (pathOf path) with
  | .ok (.file content true) => runShell r path (ofBytes content) arguments
  | .ok _ =>
    warn (path ++ ": Permission denied")
    return 126
  | .error .notFound | .error .notADirectory =>
    warn (path ++ ": not found")
    return 127
  | .error e =>
    warn (path ++ ": " ++ plainReason e)
    return 126

/-- Runs a program that is there; programs may run each other so many times. -/
def launch (r : Runner) : Nat → Utility.Launch
  | 0, _, _ => throw .stuck
  | fuel + 1, name, arguments => do
    match ← programPath? name with
    | none => return none
    | some path =>
      match systemName? path with
      | none => some <$> startFile r path arguments
      | some base =>
        if shells.contains base then some <$> startShell r name arguments
        else
          match utilities.lookup base, Utility.launchers.lookup base with
          | some run, _ => some <$> asUtility name run arguments
          | none, some run => some <$> asUtility name (run (launch r fuel)) arguments
          | none, none => some <$> asUtility name which arguments

def maxLaunches : Nat := 1000

def startProgram (r : Runner) (name : String) (arguments : List String) : Run Nat := do
  if name = "" then
    warn ": Permission denied"
    return 127
  else
    match ← launch r maxLaunches name arguments with
    | some status => return status
    | none =>
      warn (name ++ ": not found")
      return 127

end Scriptwright.Shell
