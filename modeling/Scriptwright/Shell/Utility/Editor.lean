import Scriptwright.Shell.Utility.Edit

/-!
The program that edits lines by a script from its arguments or from a file.
-/
namespace Scriptwright.Shell.Utility

open Edit in
def inputLines (x : Input) : List InputLine :=
  (linesOf x.text).map fun line => ⟨(withoutEnd line).toList, line.endsWith "\n", x.name⟩

def editScript (o : Options) : Run (Option (String × List String)) := do
  let pieces ← o.given.mapM fun (letter, value) => do
    match letter with
    | 'e' => return some value
    | 'f' =>
      match ← contentOf value with
      | .ok (text, _) => return some (withoutEnd text)
      | .error e =>
        complain ("sed: couldn't open file " ++ value ++ ": " ++ plainReason e)
        return none
    | _ => return some ""
  if pieces.any (·.isNone) then return none
  if o.has 'e' || o.has 'f' then
    let given := (o.given.zip (pieces.filterMap id)).filter fun ((letter, _), _) =>
      letter = 'e' || letter = 'f'
    return some (Text.joinWith "\n" (given.map (·.2)), o.operands)
  else
    match o.operands with
    | [] =>
      complain ("Usage: sed [OPTION]... \x7bscript-only-if-no-other-script\x7d [input-file]...\n")
      return none
    | script :: rest => return some (script, rest)

def writeFurther (path text : String) : Run Unit := do
  match path with
  | "/dev/stdout" => say text
  | "/dev/stderr" => put errorStream text
  | _ =>
    let files ← filesHere
    let old := match files.find (pathOf path) with
      | .ok (.file content _) => content
      | _ => .empty
    match files.write (pathOf path) (old ++ toBytes text) with
    | .ok files => setFiles files
    | .error e => complain ("sed: couldn't open file " ++ path ++ ": " ++ plainReason e)

def outputFiles (script : List Edit.Instruction) : List String :=
  script.filterMap fun i => match i.action with
    | .writeFile path => some path
    | .substitute s => s.file
    | _ => none

def maxEditSteps : Nat := 100000

open Edit in
def edited (j : Task) (lines : List InputLine) : Option (List Written × Nat × Bool) :=
  let size := lines.foldl (fun n l => n + l.text.length + 1) 0
  let run := Edit.runLines j maxEditSteps (size + maxEditSteps) true
  let (status, desk) := run.run { input := lines }
  status.map fun status => (desk.written.reverse, status, desk.failed)

open Edit in
def editInputs (o : Options) (script : List Instruction) (operands : List String) : Run Nat := do
  for path in outputFiles script do
    if !path.startsWith "/dev/" then
      match (← filesHere).write (pathOf path) .empty with
      | .ok files => setFiles files
      | .error e => complain ("sed: couldn't open file " ++ path ++ ": " ++ plainReason e)
  let i ← inputs operands 2 fun path e =>
    match e with
    | .isADirectory =>
      if o.has 'i' then "sed: couldn't edit " ++ path ++ ": not a regular file"
      else "sed: read error on " ++ path ++ ": " ++ plainReason e
    | e => "sed: can't read " ++ path ++ ": " ++ plainReason e
  let files ← filesHere
  let content (path : String) : Option String :=
    match files.find (pathOf path) with
    | .ok (.file content _) => some (ofBytes content)
    | _ => none
  let j : Task := ⟨script.toArray, o.has 'n', content⟩
  let emit (target : Option String) (written : List Written) : Run Unit := do
    for w in written do
      match w.file, target with
      | some path, _ => writeFurther path w.text
      | none, some path => writeFurther path w.text
      | none, none => say w.text
  let run (target : Option String) (lines : List InputLine) : Run (Option Nat) := do
    match edited j lines with
    | none => throw .stuck
    | some (_, _, true) =>
      complain "sed: no previous regular expression"
      return some 1
    | some (written, status, false) =>
      match target with
      | some path =>
        match (← filesHere).write (pathOf path) .empty with
        | .ok files => setFiles files
        | .error _ => pure ()
      | none => pure ()
      emit target written
      return if status = 0 then none else some status
  if o.has 'i' || o.has 's' then
    for x in i.found do
      let target := if o.has 'i' then some x.name else none
      match target, o.value? 'i' with
      | some path, some ending =>
        if ending ≠ "" then writeFurther (path ++ ending) x.text
      | _, _ => pure ()
      match ← run target (inputLines x) with
      | some status => return status
      | none => pure ()
    return i.status
  else
    let lines := i.found.flatMap inputLines
    let status ← run none lines
    let quits := script.any fun x => match x.action with
      | .quit _ | .quitSilently _ => true
      | _ => false
    if i.endless && !quits then throw .stuck
    return status.getD i.status

def inPlace (word : String) : String :=
  match word.toList with
  | '-' :: 'i' :: ending => "--in-place=" ++ String.ofList ending
  | _ => if word = "--in-place" then "--in-place=" else word

def sed (arguments : List String) : Run Nat :=
  withOptions "sed" ⟨"nErsuz".toList, "efil".toList, [("quiet", 'n'), ("silent", 'n'),
      ("expression", 'e'), ("file", 'f'), ("regexp-extended", 'E'), ("in-place", 'i'),
      ("separate", 's')]⟩ 1 (fun o => do
    match ← editScript o with
    | none => return 1
    | some (source, operands) =>
      match Edit.script (o.has 'E' || o.has 'r') source with
      | .error (.at char text) =>
        complain ("sed: -e expression #1, char " ++ toString char ++ ": " ++ text)
        return 1
      | .error (.label name) =>
        complain ("sed: can't find label for jump to \x60" ++ name ++ "'")
        return 1
      | .ok script => editInputs o script operands) (arguments.map inPlace)

end Scriptwright.Shell.Utility
