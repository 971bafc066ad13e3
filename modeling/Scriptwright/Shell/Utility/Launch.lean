import Scriptwright.Shell.Utility.Surroundings

/-!
Programs that run other programs.
-/
namespace Scriptwright.Shell.Utility

/-- Runs a program by its name; nothing if there is none. -/
abbrev Launch := String → List String → Run (Option Nat)

/-- Runs a program, or complains that there is none. -/
def launched (own : String) (complaint : String → String) (launch : Launch)
    (command : List String) : Run Nat := do
  match command with
  | [] => return 0
  | name :: arguments =>
    match ← launch name arguments with
    | some status => return status
    | none =>
      complain (own ++ ": " ++ complaint name ++ ": " ++ plainReason .notFound)
      return 127

def withEnvironment {α : Type} (altered : List (String × Variable) → List (String × Variable))
    (body : Run α) : Run α := do
  let p ← process
  change fun p => { p with bound := altered p.bound }
  let result ← attempt body
  change fun q => { q with bound := p.bound }
  match result with
  | .ok a => return a
  | .error j => throw j

def pair? (word : String) : Option (String × String) :=
  match word.toList.span (· != '=') with
  | (_, []) => none
  | (name, _ :: value) => some (String.ofList name, String.ofList value)

def splitCommand (valued : List Char) : List String → List String × List String
  | [] => ([], [])
  | word :: rest =>
    match word.toList with
    | ['-', '-'] => ([], rest)
    | '-' :: c :: cs =>
      if cs.isEmpty && valued.contains c then
        match rest with
        | value :: rest =>
          let (more, command) := splitCommand valued rest
          (word :: value :: more, command)
        | [] => ([word], [])
      else
        let (more, command) := splitCommand valued rest
        (word :: more, command)
    | _ => ([], word :: rest)

def env (launch : Launch) (arguments : List String) : Run Nat := do
  let dash (w : String) : String := if w = "-" then "-i" else w
  let (options, words) := splitCommand ['u', 'C', 'S'] (arguments.map dash)
  withOptions "env" ⟨"i0v".toList, "uCS".toList, [("ignore-environment", 'i'), ("unset", 'u')]⟩ 125
    (fun o => do
      let settings := (words.takeWhile fun w => (pair? w).isSome).filterMap pair?
      let command := words.dropWhile fun w => (pair? w).isSome
      let given (vs : List (String × Variable)) : List (String × Variable) :=
        let kept := if o.has 'i' then []
          else vs.filter fun (name, v) => v.exported && !(o.values 'u').contains name
        settings.foldl (fun vs (name, value) =>
          vs.filter (·.1 ≠ name) ++ [(name, { value := some value, exported := true })]) kept
      withEnvironment given do
        if command.isEmpty then
          let known := (← process).environment
          say (unlines (known.map fun (name, value) => name ++ "=" ++ value))
          return 0
        else launched "env" quoted launch command) options

def timeout (launch : Launch) (arguments : List String) : Run Nat := do
  let (options, words) := splitCommand ['k', 's'] arguments
  withOptions "timeout" ⟨"fpv".toList, "ks".toList, [("foreground", 'f'), ("preserve-status", 'p'),
      ("kill-after", 'k'), ("signal", 's'), ("verbose", 'v')]⟩ 125 (fun o => do
    match words with
    | [] | [_] => misused "timeout" "missing operand" 125
    | limit :: command =>
      match span? limit with
      | none => misused "timeout" ("invalid time interval " ++ quoted limit) 125
      | some limit =>
        let start := (← process).clock
        let stopped : Run Nat := do
          change fun p => { p with clock := start + limit }
          let isKill := (o.value? 's').any ["KILL", "9", "SIGKILL"].contains
          return if isKill then 137 else 124
        match ← attempt (launched "timeout" (fun n => "failed to run command " ++ quoted n) launch
            command) with
        | .ok status =>
          let elapsed := (← process).clock - start
          if limit ≠ 0 && limit ≤ elapsed then stopped else return status
        | .error .stuck => if limit = 0 then throw .stuck else stopped
        | .error j => throw j) options

def nice (launch : Launch) (arguments : List String) : Run Nat := do
  let (options, words) := splitCommand ['n'] arguments
  withOptions "nice" ⟨"0123456789".toList, ['n'], [("adjustment", 'n')]⟩ 125 (fun _ => do
    if words.isEmpty then
      say "0\n"
      return 0
    else launched "nice" quoted launch words) options

def nohup (launch : Launch) (arguments : List String) : Run Nat := do
  let (options, words) := splitCommand [] arguments
  withOptions "nohup" {} 125 (fun _ => do
    if words.isEmpty then misused "nohup" "missing operand" 125
    else launched "nohup" (fun n => "failed to run command " ++ quoted n) launch words) options

/-- Runs a program in a session or with streams of its own, which changes nothing here. -/
def plainly (own : String) (launch : Launch) (arguments : List String) : Run Nat := do
  let (options, words) := splitCommand ['i', 'o', 'e'] arguments
  withOptions own ⟨"cfw".toList, "ioe".toList, []⟩ 1 (fun _ =>
    launched own id launch words) options

inductive WordFault where
  | single
  | double

/-- Words between blanks; quotes and backslashes keep blanks inside. -/
def quotedWords : Nat → List Char → List Char → Bool → Except WordFault (List String)
  | 0, _, _, _ => .ok []
  | fuel + 1, cs, word, started => do
    let finished (rest : List Char) : Except WordFault (List String) := do
      let more ← quotedWords fuel rest [] false
      return if started then String.ofList word :: more else more
    match cs with
    | [] => return if started then [String.ofList word] else []
    | '\\' :: c :: rest => quotedWords fuel rest (word ++ [c]) true
    | '\'' :: rest =>
      match rest.span fun c => c ≠ '\'' && c ≠ '\n' with
      | (part, '\'' :: rest) => quotedWords fuel rest (word ++ part) true
      | _ => throw .single
    | '"' :: rest =>
      match rest.span fun c => c ≠ '"' && c ≠ '\n' with
      | (part, '"' :: rest) => quotedWords fuel rest (word ++ part) true
      | _ => throw .double
    | c :: rest => if isSpace c then finished rest else quotedWords fuel rest (word ++ [c]) true

def filled (mark value text : String) : String :=
  if mark = "" then text else Text.joinWith value (text.splitOn mark)

def runAll (launch : Launch) : Nat → List (List String) → Run Nat
  | status, [] => return status
  | status, command :: rest => do
    let s ← launched "xargs" id launch command
    if s = 127 || s = 126 then return s
    else if s = 255 then
      complain ("xargs: " ++ command.headD "" ++ ": exited with status 255; aborting")
      return 124
    else runAll launch (if s = 0 then status else 123) rest

def xargs (launch : Launch) (arguments : List String) : Run Nat := do
  let (options, words) := splitCommand "nIdLPsaE".toList arguments
  withOptions "xargs" ⟨"0rtxp".toList, "nIdLPsaE".toList, [("null", '0'), ("max-args", 'n'),
      ("no-run-if-empty", 'r'), ("delimiter", 'd')]⟩ 1 (fun o => do
    let command := if words.isEmpty then ["echo"] else words
    let (text, endless) ← takeAll 0
    if endless then throw .stuck
    let delimiter : Option Char := if o.has '0' then some '\x00'
      else match (o.value? 'd').map fun d => (Format.unescaped (d.length + 1) d.toList).1 with
        | some (c :: _) => some c
        | _ => none
    let items : Except WordFault (List String) :=
      match delimiter with
      | some c =>
        let pieces := (Text.splitAt (· == c) text.toList).map String.ofList
        .ok (if pieces.getLast? = some "" then pieces.dropLast else pieces)
      | none =>
        if o.has 'I' || o.has 'L' then
          .ok (((plainLines text).map fun l => String.ofList (l.toList.dropWhile isBlank)).filter
            (· ≠ ""))
        else quotedWords (text.length + 1) text.toList [] false
    match items with
    | .error f =>
      let kind := match f with
        | .single => "single"
        | .double => "double"
      complain ("xargs: unmatched " ++ kind ++
        " quote; by default quotes are special to xargs unless you use the -0 option")
      return 1
    | .ok items =>
      match o.value? 'I' with
      | some mark => runAll launch 0 (items.map fun item => command.map (filled mark item))
      | none =>
        let size := match (o.value? 'n').bind (·.toNat?), (o.value? 'L').bind (·.toNat?) with
          | some n, _ => max 1 n
          | none, some n => max 1 n
          | none, none => items.length + 1
        let grouped := if o.has 'L' then
            (chunks size (items.length + 1) items).map fun ls =>
              (ls.map fun l => (Text.splitAt isSpace l.toList).map String.ofList).flatten.filter
                (· ≠ "")
          else chunks size (items.length + 1) items
        let groups := if items.isEmpty && !o.has 'r' then [[]] else grouped
        runAll launch 0 (groups.map (command ++ ·))) options

def launchers : List (String × (Launch → Utility)) :=
  [("env", env), ("timeout", timeout), ("nice", nice), ("nohup", nohup), ("xargs", xargs),
    ("setsid", plainly "setsid"), ("stdbuf", plainly "stdbuf")]

end Scriptwright.Shell.Utility
