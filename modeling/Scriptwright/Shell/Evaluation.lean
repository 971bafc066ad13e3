import Scriptwright.Shell.Builtin.Flow
import Scriptwright.Shell.Builtin.Input
import Scriptwright.Shell.Builtin.Jobs
import Scriptwright.Shell.Builtin.Output
import Scriptwright.Shell.Builtin.Variables
import Scriptwright.Shell.Program

/-!
Running commands.
-/
namespace Scriptwright.Shell

def builtins : List (String × Builtin) :=
  [(":", fun _ => return 0), ("true", fun _ => return 0), ("false", fun _ => return 1),
    ("exit", Builtin.exit), ("return", Builtin.leaveFunction), ("break", Builtin.leaveLoop),
    ("continue", Builtin.nextTurn), ("shift", Builtin.shift), ("eval", Builtin.eval),
    (".", Builtin.source), ("trap", Builtin.trap), ("set", Builtin.set),
    ("export", Builtin.exported), ("readonly", Builtin.fixed), ("unset", Builtin.unset),
    ("local", Builtin.localVariables), ("read", Builtin.read), ("getopts", Builtin.getopts),
    ("echo", fun c => Builtin.echo c.arguments), ("printf", fun c => Builtin.printf c.arguments),
    ("test", fun c => Builtin.test false c.arguments),
    ("[", fun c => Builtin.test true c.arguments), ("cd", Builtin.changeDirectory),
    ("chdir", Builtin.changeDirectory), ("pwd", Builtin.printDirectory), ("umask", Builtin.umask),
    ("ulimit", Builtin.ulimit), ("wait", Builtin.waitFor), ("kill", Builtin.kill),
    ("hash", fun _ => return 0), ("jobs", fun _ => return 0), ("alias", fun _ => return 0),
    ("unalias", fun _ => return 0)]

def times (_ : Call) : Run Nat := do
  say "0m0.000000s 0m0.000000s\n0m0.000000s 0m0.000000s\n"
  return 0

def isBuiltin (name : String) : Bool :=
  (builtins.lookup name).isSome || ["exec", "command", "type", "times"].contains name

/-- What a name stands for as a command, in words. -/
def describe (terse : Bool) (name : String) : Run Nat := do
  let p ← process
  if Reading.reservedWords.contains name then
    say (if terse then name ++ "\n" else name ++ " is a shell keyword\n")
    return 0
  else if (p.functions.lookup name).isSome then
    say (if terse then name ++ "\n" else name ++ " is a shell function\n")
    return 0
  else if Reading.specialNames.contains name then
    say (if terse then name ++ "\n" else name ++ " is a special shell builtin\n")
    return 0
  else if isBuiltin name then
    say (if terse then name ++ "\n" else name ++ " is a shell builtin\n")
    return 0
  else
    match ← programPath? name with
    | some path =>
      say (if terse then path ++ "\n" else name ++ " is " ++ path ++ "\n")
      return 0
    | none =>
      if !terse then say (name ++ ": not found\n")
      return 127

/-- Runs one of the shell's own commands; an error in it ends the shell only if it is special. -/
def runBuiltin (r : Runner) (tested special : Bool) (name : String) (run : Builtin)
    (arguments : List String) : Run Unit := do
  let p ← process
  change fun p => { p with speaker := some name }
  let result ← attempt (run ⟨r, tested, arguments⟩)
  change fun q => { q with speaker := p.speaker }
  match result with
  | .ok status => setStatus status
  | .error .fault => if special then throw .fault else return
  | .error j => throw j

def restoreVariables (frame : List (String × Option Variable)) (p : Process) : Process :=
  frame.foldl (fun p (name, v) => p.withVariable name v) p

def maxCalls : Nat := 1000

def runFunction (r : Runner) (tested : Bool) (body : Command) (arguments : List String) :
    Run Unit := do
  let p ← process
  if maxCalls ≤ p.calls then fail "Maximum function recursion depth (1000) reached"
  change fun p =>
    { p with arguments, calls := p.calls + 1, loops := 0, shadowed := [] :: p.shadowed,
             optionPlace := (1, 0) }
  let result ← attempt (r.run tested body)
  change fun q =>
    let q := restoreVariables (q.shadowed.headD []) q
    { q with arguments := p.arguments, calls := p.calls, loops := p.loops, shadowed := p.shadowed,
             optionPlace := p.optionPlace }
  match result with
  | .ok () | .error .leaveFunction => return
  | .error j => throw j

def runProgram (r : Runner) (name : String) (arguments : List String) : Run Unit := do
  if !(← get).jobs.isEmpty then settleJobs r
  let status ← startProgram r name arguments
  setStatus status

def runNamed (r : Runner) (tested functions special : Bool) (name : String)
    (arguments : List String) : Run Unit := do
  let p ← process
  let special := special && Reading.specialNames.contains name
  match if functions then p.functions.lookup name else none, builtins.lookup name with
  | some body, none => runFunction r tested body arguments
  | some body, some run =>
    if special then runBuiltin r tested special name run arguments
    else runFunction r tested body arguments
  | none, some run => runBuiltin r tested special name run arguments
  | none, none =>
    match name with
    | "times" => runBuiltin r tested special name times arguments
    | "type" =>
      runBuiltin r tested special name (fun c => c.arguments.foldlM (fun status name => do
        return max status (← describe false name)) 0) arguments
    | _ => runProgram r name arguments

/-- The command behind the options of `command`, and what is asked about it. -/
def commandOptions : List String → Option Char × List String
  | "-v" :: rest => (some 'v', rest)
  | "-V" :: rest => (some 'V', rest)
  | "-p" :: rest => commandOptions rest
  | "--" :: rest => (none, rest)
  | rest => (none, rest)

def redirect (x : Expander) : List Redirect → Run Unit
  | [] => return
  | .document stream number :: rest => do
    let w := ((← get).documents.lookup number).getD []
    let text ← x.text w
    let channel ← addChannel (.waiting text.toList false)
    setStream stream channel
    redirect x rest
  | .copy stream source :: rest => do
    let text ← x.text source
    match text.toList with
    | ['-'] => closeStream stream
    | [d] =>
      if !d.isDigit then fail "Syntax error: Bad fd number"
      match (← process).streams.lookup (d.toNat - '0'.toNat) with
      | some number => setStream stream number
      | none => fail (text ++ ": Bad file descriptor")
    | _ => fail "Syntax error: Bad fd number"
    redirect x rest
  | .file stream mode path :: rest => do
    let name ← x.text path
    match ← openFile name mode with
    | .ok number => setStream stream number
    | .error e =>
      let isInput := match mode with
        | .input => true
        | _ => false
      let reason := match e with
        | .notFound | .notADirectory => if isInput then "No such file" else "Directory nonexistent"
        | e => plainReason e
      fail ("cannot " ++ (if isInput then "open " else "create ") ++ name ++ ": " ++ reason)
    redirect x rest

/-- Runs something with streams led elsewhere; where that fails, `failed` says what becomes of the
shell. -/
def withStreams (x : Expander) (redirects : List Redirect) (failed : Run Unit) (body : Run Unit) :
    Run Unit := do
  let before := (← process).streams
  match ← attempt (redirect x redirects) with
  | .ok () =>
    let result ← attempt body
    change fun p => { p with streams := before }
    match result with
    | .ok () => return
    | .error j => throw j
  | .error .fault =>
    change fun p => { p with streams := before }
    setStatus 2
    failed
  | .error j => throw j

/-- Shows a command before it runs, if the shell is asked to. -/
def trace (settings : List (String × String)) (words : List String) (stream : Option Nat) :
    Run Unit := do
  let p ← process
  if p.isOn 'x' then
    match stream with
    | none => return
    | some number =>
      let shown := settings.map (fun (name, value) => name ++ "=" ++ value) ++ words
      setStream 1000 number
      put 1000 ((p.value? "PS4").getD "+ " ++ Text.joinWith " " shown ++ "\n")
      closeStream 1000

def assign (x : Expander) (settings : List (String × Word)) : Run (List (String × String)) :=
  settings.mapM fun (name, w) => do
    let value ← x.text w
    setVariable name value
    return (name, value)

/-- Commands that take settings as arguments, whose values are not cut into words. -/
def takesSettings (name : String) : Bool := ["export", "readonly", "local"].contains name

def argumentsOf (x : Expander) (words : List Word) : Run (List String) := do
  words.foldlM (fun done w => do
    match Word.setting? w with
    | some (name, value) =>
      if (done.head?).any takesSettings then
        let text ← x.text value
        return done ++ [name ++ "=" ++ text]
      else return done ++ (← x.words w)
    | none => return done ++ (← x.words w)) []

def runSimple (r : Runner) (tested : Bool) (settings : List (String × Word)) (words : List Word)
    (redirects : List Redirect) : Run Unit := do
  let x := expander r (finish r)
  change fun p => { p with substituted := 0 }
  let all ← argumentsOf x words
  let traced := (← process).streams.lookup errorStream
  match all with
  | [] =>
    withStreams x redirects (throw .fault) do
      let set ← assign x settings
      if !set.isEmpty then trace set [] traced
      change fun p => { p with status := p.substituted }
  | "exec" :: arguments =>
    let arguments := if arguments.head? = some "--" then arguments.drop 1 else arguments
    match ← attempt (redirect x redirects) with
    | .ok () => pure ()
    | .error .fault =>
      setStatus 2
      throw .fault
    | .error j => throw j
    let set ← assign x settings
    trace set all traced
    match arguments with
    | [] => setStatus 0
    | name :: arguments =>
      change fun p => { p with speaker := some "exec", traps := p.traps.filter (·.1 ≠ "EXIT") }
      for (name, value) in set do
        change fun p => p.withVariable name (some { value := some value, exported := true })
      runProgram r name arguments
      throw .exit
  | name :: arguments =>
    let p ← process
    let (asked, target, rest) := if name = "command" then
        match commandOptions arguments with
        | (asked, target :: rest) => (asked, target, rest)
        | (asked, []) => (asked, "", [])
      else (none, name, arguments)
    let direct := name = "command"
    let special := !direct && Reading.specialNames.contains target
    let failed : Run Unit := if special then throw .fault else return
    withStreams x redirects failed do
      let saved := settings.map fun (name, _) => (name, p.binding? name)
      let set ← assign x settings
      if !special then
        for (name, value) in set do
          change fun p => p.withVariable name (some { value := some value, exported := true })
      trace set all traced
      let result ← attempt do
        match asked, target with
        | some 'v', _ => setStatus (← describe true target)
        | some _, _ => setStatus (← describe false target)
        | none, "" => if direct then setStatus 0 else runProgram r target rest
        | none, _ => runNamed r tested (!direct) special target rest
      if !special then change (restoreVariables saved)
      match result with
      | .ok () => return
      | .error j => throw j

inductive Turn where
  | complete
  | again
  | leave

def inLoop (part : Run Unit) : Run Turn := do
  match ← attempt part with
  | .ok () => return .complete
  | .error (.nextTurn 1) => return .again
  | .error (.leaveLoop 1) => return .leave
  | .error (.leaveLoop n) =>
    change fun p => { p with loops := p.loops - 1 }
    throw (.leaveLoop (n - 1))
  | .error (.nextTurn n) =>
    change fun p => { p with loops := p.loops - 1 }
    throw (.nextTurn (n - 1))
  | .error j => throw j

/-- Runs the turns of a loop; the status afterwards is that of the last time the body ran. -/
def turns (untilTrue : Bool) (test body : Run Unit) : Nat → Nat → Run Unit
  | 0, _ => throw .stuck
  | fuel + 1, last => do
    match ← inLoop test with
    | .leave => return
    | .again => turns untilTrue test body fuel last
    | .complete =>
      if ((← process).status == 0) == untilTrue then setStatus last
      else
        match ← inLoop body with
        | .leave => return
        | _ =>
          let status := (← process).status
          turns untilTrue test body fuel status

def forItems (name : String) (body : Run Unit) : List String → Run Unit
  | [] => return
  | item :: rest => do
    spend
    setVariable name item
    match ← inLoop body with
    | .leave => return
    | _ => forItems name body rest

def branchFor (x : Expander) (subject : String) : List (List Word × Command) →
    Run (Option Command)
  | [] => return none
  | (patterns, body) :: rest => do
    let found ← patterns.anyM fun p => do
      let items := globOf (← x.marks p)
      return globMatches items subject.toList
    if found then return some body else branchFor x subject rest

def runLoop (body : Run Unit) : Run Unit := do
  change fun p => { p with loops := p.loops + 1 }
  body
  change fun p => { p with loops := p.loops - 1 }

def checkFailure (tested : Bool) : Run Unit := do
  let p ← process
  if p.status ≠ 0 && !tested && p.isOn 'e' then throw .exit

def runStages (r : Runner) (clock : Nat) : List Command → Option Nat → Run Unit
  | [], _ => return
  | c :: rest, input => do
    let last := rest.isEmpty
    let output ← if last then pure none else some <$> addChannel (.collecting "")
    let finished ← attempt do
      asChild (finish r) do
        change fun p => { p with clock }
        match input with
        | some number => setStream 0 number
        | none => pure ()
        match output with
        | some number => setStream outputStream number
        | none => pure ()
        r.run false c
    match finished, output with
    | .ok status, _ =>
      setStatus status
    | .error .stuck, some _ => setStatus 0
    | .error j, _ => throw j
    match output with
    | some number =>
      let written ← closeChannel number
      let endless := match finished with
        | .error .stuck => true
        | _ => false
      if endless && written = "" then throw .stuck
      let number ← addChannel (.waiting written.toList endless)
      runStages r clock rest (some number)
    | none => return

def maxTurns : Nat := 1000000

def step (r : Runner) (tested : Bool) : Command → Run Unit
  | .nothing => setStatus 0
  | .simple line settings words redirects => do
    spend
    change fun p => { p with line }
    let before := (← process).clock
    runSimple r tested settings words redirects
    if before < (← process).clock && !(← get).jobs.isEmpty then settleJobs r
    runPending r
    checkFailure tested
  | .redirected line command redirects => do
    change fun p => { p with line }
    let x := expander r (finish r)
    withStreams x redirects (return) (r.run tested command)
    runPending r
  | .sequence commands => do
    for c in commands do r.run tested c
  | .pipeline stages => do
    spend
    let p ← process
    runStages r p.clock stages none
    runPending r
    checkFailure tested
  | .aside command => do
    spend
    startJob command
  | .both first second => do
    r.run true first
    if (← process).status = 0 then r.run tested second
  | .either first second => do
    r.run true first
    if (← process).status ≠ 0 then r.run tested second
  | .negate command => do
    r.run true command
    change fun p => { p with status := if p.status = 0 then 1 else 0 }
  | .apart command => do
    spend
    let status ← asChild (finish r) (r.run tested command)
    setStatus status
    runPending r
    checkFailure tested
  | .branch test yes no => do
    r.run true test
    if (← process).status = 0 then r.run tested yes else r.run tested no
  | .loop untilTrue test body =>
    runLoop (turns untilTrue (r.run true test) (r.run tested body) maxTurns 0)
  | .forEach line name items body => do
    let x := expander r (finish r)
    change fun p => { p with line }
    let found ← items.mapM x.words
    setStatus 0
    runLoop (forItems name (r.run tested body) found.flatten)
  | .choose line subject branches => do
    let x := expander r (finish r)
    change fun p => { p with line }
    let text ← x.text subject
    setStatus 0
    match ← branchFor x text branches with
    | some body => r.run tested body
    | none => return
  | .define name body => do
    change fun p => { p with functions := (name, body) :: p.functions.filter (·.1 ≠ name) }
    setStatus 0

mutual

/-- Runs a command, nested at most as deep as the number says. -/
def run : Nat → Bool → Command → Run Unit
  | 0, _, _ => throw .stuck
  | depth + 1, tested, c => step ⟨run depth, expand depth⟩ tested c

def expand : Nat → Word → Run (List Fragment)
  | 0, _ => throw .stuck
  | depth + 1, w =>
    let r : Runner := ⟨run depth, expand depth⟩
    fragmentsOf r (finish r) false w

end

end Scriptwright.Shell
