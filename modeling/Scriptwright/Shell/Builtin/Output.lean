import Scriptwright.Shell.Builtin.Basic
import Scriptwright.Shell.Condition
import Scriptwright.Shell.Format

/-!
Printing and testing, which a shell does itself and which are programs as well, and what it does for
its own process alone: moving to a directory, and the limits that it passes on.
-/
namespace Scriptwright.Shell.Builtin

def echo (words : List String) : Run Nat := do
  match ← channelOf outputStream with
  | some _ =>
    say (Format.echoed words)
    return 0
  | none =>
    warn "echo: I/O error"
    return 1

def printf (arguments : List String) : Run Nat := do
  let arguments := match arguments with
    | "--" :: rest => rest
    | arguments => arguments
  match arguments with
  | [] => fail "usage: printf format [arg ...]"
  | format :: arguments =>
    let (ending, p) := (Format.formatted format.toList (arguments.length + 1)).run { arguments }
    for text in p.complaints do warn text
    match ending with
    | .invalid problem =>
      warn problem
      say p.output
      setStatus 2
      throw .fault
    | _ =>
      say p.output
      return p.status

def test (bracketed : Bool) (words : List String) : Run Nat := do
  let words ← if bracketed then
      if words.getLast? = some "]" then pure words.dropLast else fail "missing ]"
    else pure words
  match Condition.holds? (← filesHere) (words.length + 1) words with
  | .ok holds => return if holds then 0 else 1
  | .error message => fail message

def placeText (place : Location) : String := ofText ("/" ++ place)

def changeDirectory (c : Call) : Run Nat := do
  let (_, arguments) ← options ['L', 'P'] c.arguments
  let p ← process
  let target := match arguments.head? with
    | none => (p.value? "HOME").getD ""
    | some "-" => (p.value? "OLDPWD").getD (placeText p.here)
    | some path => path
  let files ← filesHere
  let path := if target = "" then "." else pathOf target
  match files.locate path with
  | .ok place =>
    if !files.isDirectory path then fail ("can't cd to " ++ target)
    setVariable "OLDPWD" (placeText p.here)
    setVariable "PWD" (placeText place)
    change fun p => { p with here := place }
    if arguments.head? = some "-" then say (placeText place ++ "\n")
    return 0
  | .error _ => fail ("can't cd to " ++ target)

def printDirectory (_ : Call) : Run Nat := do
  say (placeText (← process).here ++ "\n")
  return 0

def octal (width n : Nat) : String :=
  let digits := String.ofList (Nat.toDigits 8 n)
  String.ofList (List.replicate (width - digits.length) '0') ++ digits

/-- Permissions in letters, for each of owner, group and others. -/
def permissionText (granted : Nat) : String :=
  let letters (n : Nat) : String :=
    (if n / 4 % 2 = 1 then "r" else "") ++ (if n / 2 % 2 = 1 then "w" else "") ++
      if n % 2 = 1 then "x" else ""
  "u=" ++ letters (granted / 64 % 8) ++ ",g=" ++ letters (granted / 8 % 8) ++ ",o=" ++
    letters (granted % 8)

def umask (c : Call) : Run Nat := do
  let (letters, arguments) ← options ['S'] c.arguments
  match arguments.head? with
  | none =>
    let mask := (← process).mask
    say ((if letters.contains 'S' then permissionText (0o777 - mask) else octal 4 mask) ++ "\n")
    return 0
  | some text =>
    let cs := text.toList
    if cs.all fun d => '0' ≤ d && d ≤ '7' then
      let mask := cs.foldl (fun n d => n * 8 + (d.toNat - '0'.toNat)) 0
      change fun p => { p with mask }
      return 0
    else if cs.all Char.isDigit then fail ("Illegal number: " ++ text)
    else return 0

def ulimit (c : Call) : Run Nat := do
  match c.arguments.filter (!·.startsWith "-") with
  | [] =>
    say "unlimited\n"
    return 0
  | _ => return 0

end Scriptwright.Shell.Builtin
