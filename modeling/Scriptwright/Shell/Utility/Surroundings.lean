import Scriptwright.Shell.Utility.Count

/-!
Programs about the system and the time.
-/
namespace Scriptwright.Shell.Utility

def span? (text : String) : Option Nat :=
  let (digits, unit) := text.toList.span fun c => c.isDigit || c = '.'
  let factor : Option Nat := match unit with
    | [] | ['s'] => some 1000
    | ['m'] => some 60000
    | ['h'] => some 3600000
    | ['d'] => some 86400000
    | _ => none
  match Fixed.ofText? (String.ofList digits), factor with
  | some x, some f => some ((x.units.natAbs * f + Nat.pow 10 x.places - 1) / Nat.pow 10 x.places)
  | _, _ => none

def isEndless (text : String) : Bool := ["inf", "infinity"].contains text

def sleep : Utility :=
  withOptions "sleep" {} 1 fun o => do
    if o.operands.isEmpty then misused "sleep" "missing operand" 1
    else
      let bad := o.operands.filter fun t => (span? t).isNone && !isEndless t
      if bad.isEmpty then
        if o.operands.any isEndless then throw .stuck
        elapse ((o.operands.filterMap span?).foldl (· + ·) 0)
        return 0
      else
        for t in bad do complain ("sleep: invalid time interval " ++ quoted t)
        complain "Try 'sleep --help' for more information."
        return 1

def plenty : Nat := 300000

def yes (arguments : List String) : Run Nat := do
  let words := match arguments with
    | "--" :: rest => rest
    | words => words
  let line := (if words.isEmpty then "y" else Text.joinWith " " words) ++ "\n"
  match ← channelOf outputStream with
  | none =>
    complain "yes: standard output: Bad file descriptor"
    return 1
  | some _ =>
    say (String.join (List.replicate (plenty / line.length + 1) line))
    throw .stuck

def uname : Utility :=
  withOptions "uname" ⟨"asnrvmpio".toList, [], [("all", 'a')]⟩ 1 fun o => do
    let known := [('s', "Linux"), ('n', "localhost"), ('r', "6.1.0"), ('v', "#1 SMP"),
      ('m', "x86_64"), ('o', "GNU/Linux")]
    let chosen := known.filter fun (letter, _) =>
      o.has 'a' || o.has letter || (letter = 's' && o.given.isEmpty)
    say (Text.joinWith " " (chosen.map (·.2)) ++ "\n")
    return 0

def identity : Utility :=
  withOptions "id" ⟨"ugnGr".toList, [], [("user", 'u'), ("group", 'g'), ("name", 'n'),
      ("groups", 'G')]⟩ 1 fun o => do
    if o.has 'u' || o.has 'g' || o.has 'G' then say (if o.has 'n' then "root\n" else "0\n")
    else say "uid=0(root) gid=0(root) groups=0(root)\n"
    return 0

def whoami : Utility :=
  withOptions "whoami" {} 1 fun _ => do
    say "root\n"
    return 0

def tty : Utility :=
  withOptions "tty" ⟨['s'], [], [("silent", 's'), ("quiet", 's')]⟩ 2 fun o => do
    if !o.has 's' then say "not a tty\n"
    return 1

def printenv : Utility :=
  withOptions "printenv" ⟨['0'], [], []⟩ 2 fun o => do
    let known := (← process).environment
    if o.operands.isEmpty then
      say (unlines (known.map fun (name, value) => name ++ "=" ++ value))
      return 0
    else
      let found := o.operands.map fun name => known.lookup name
      say (unlines (found.filterMap id))
      return if found.any (·.isNone) then 1 else 0

def pwd : Utility :=
  withOptions "pwd" ⟨"LP".toList, [], []⟩ 1 fun _ => do
    say ("/" ++ ofText (← process).here ++ "\n")
    return 0

/-- The program that echoes; a backslash means nothing unless an option says so. -/
def echo (arguments : List String) : Run Nat := do
  let isOption (w : String) : Bool :=
    match w.toList with
    | '-' :: c :: cs => (c :: cs).all "neE".toList.contains
    | _ => false
  let (options, words) := arguments.span isOption
  let letters := options.flatMap (·.toList)
  let text := Text.joinWith " " words
  let escapes := (letters.reverse.find? fun c => c = 'e' || c = 'E') = some 'e'
  let (cs, stops) := if escapes then Format.unescaped (text.length + 1) text.toList
    else (text.toList, false)
  say (String.ofList cs ++ if letters.contains 'n' || stops then "" else "\n")
  return 0

end Scriptwright.Shell.Utility
