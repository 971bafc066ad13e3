import Scriptwright.Shell.Arithmetic
import Scriptwright.Shell.Field
import Scriptwright.Shell.Stream

/-!
Expanding words. Commands inside words are run by a runner, which is a parameter because commands
hold words in turn.
-/
namespace Scriptwright.Shell

/-- Runs commands and expands words that are nested in others. A tested command may fail without
ending the shell. -/
structure Runner where
  run : (tested : Bool) → Command → Run Unit
  expand : Word → Run (List Fragment)

/-- Runs something as a shell of its own would, and gives its status. Files and streams are
shared; what happens to the shell itself is forgotten. -/
def asChild (finish : Run Unit) (body : Run Unit) : Run Nat := do
  let outer ← process
  change fun p =>
    let silent := p.traps.filter (·.2 = "")
    { p with traps := silent, outerTraps := some (p.outerTraps.getD p.traps), loops := 0 }
  let result ← attempt body
  let status ← match result with
    | .ok () | .error .exit | .error (.leaveLoop _) | .error (.nextTurn _) |
        .error .leaveFunction | .error .fault =>
      finish
      pure (← process).status
    | .error j =>
      change fun _ => outer
      throw j
  let clock := (← process).clock
  change fun _ => { outer with clock := max outer.clock clock }
  return status

/-- What commands write to their output, without line ends behind it. -/
def captured (finish : Run Unit) (body : Run Unit) : Run String := do
  let number ← addChannel (.collecting "")
  let status ← asChild finish do
    setStream outputStream number
    body
  let written ← closeChannel number
  change fun p => { p with substituted := status }
  let kept := written.toList.filter (· != '\x00')
  return String.ofList (kept.reverse.dropWhile (· == '\n')).reverse

def separators (p : Process) : List Char := ((p.value? "IFS").getD " \t\n").toList

def parameter? (name : String) : Run (Option String) := do
  let p ← process
  match name with
  | "0" => return some p.name
  | "#" => return some (toString p.arguments.length)
  | "?" => return some (toString p.status)
  | "$" => return some (toString p.number)
  | "!" => return p.lastJob.map toString
  | "-" => return some (String.ofList p.options)
  | name =>
    match name.toNat? with
    | some k => return p.arguments[k - 1]?
    | none => return p.value? name

def setVariable (name value : String) : Run Unit := do
  if name = "OPTIND" then change fun p => { p with optionPlace := (max 1 (value.toNat?.getD 1), 0) }
  match (← process).binding? name with
  | some v =>
    if v.fixed then fail (name ++ ": is read only")
    let exported := v.exported
    change fun p => p.withVariable name (some { value := some value, exported })
  | none =>
    let exported := (← process).isOn 'a'
    change fun p => p.withVariable name (some { value := some value, exported })

def joinedArguments (p : Process) : String :=
  let gap := match p.value? "IFS" with
    | some ifs => String.ofList (ifs.toList.take 1)
    | none => " "
  Text.joinWith gap p.arguments

def resultOf (quoted : Bool) (text : String) : Fragment :=
  if quoted then .literal true text else .result text

def allArguments (quoted splits : Bool) (name : String) : Run (List Fragment) := do
  let p ← process
  if !splits || (quoted && name = "*") then return [resultOf quoted (joinedArguments p)]
  else return (p.arguments.map (resultOf quoted)).intersperse .gap

/-- The value of a parameter that has to have one if the shell asks for it. -/
def demanded (name : String) : Run String := do
  match ← if name = "@" || name = "*" then pure none else parameter? name with
  | some value => return value
  | none =>
    if name = "@" || name = "*" then return joinedArguments (← process)
    else
      if (← process).isOn 'u' then fail (name ++ ": parameter not set")
      return ""

def lookupNumber (p : Process) (name : String) : Except String Int64 :=
  let text := (p.value? name).getD ""
  match Arithmetic.integer? text with
  | some n => .ok n
  | none => .error ("Illegal number: " ++ text)

def calculated (expression : String) : Run String := do
  match Arithmetic.evaluate (lookupNumber (← process)) expression with
  | .ok (n, settings) =>
    for (name, n) in settings do
      setVariable name (toString n.toInt)
    return toString n.toInt
  | .error message => fail message

def missing {α : Type} (r : Runner) (name : String) (orNull : Bool) (operand : Word) : Run α := do
  if operand.isEmpty then
    fail (name ++ ": parameter not set" ++ if orNull then " or null" else "")
  else fail (name ++ ": " ++ joinedText (← r.expand operand))

def expandParameter (r : Runner) (splits quoted : Bool) (name : String) (c : Change)
    (operand : Word) : Run (List Fragment) := do
  let isList := name = "@" || name = "*"
  let plain : Run (List Fragment) := do
    if isList then
      match c, ← allArguments quoted splits name with
      | .plain, found => return found
      | _, [] => return [resultOf quoted ""]
      | _, found => return found
    else return [resultOf quoted (← demanded name)]
  let replaced : Run (List Fragment) := do
    let found ← r.expand operand
    return if quoted then found else found.map (·.loose)
  let value ← if isList then pure (some (joinedArguments (← process))) else parameter? name
  let isThere (orNull : Bool) : Bool := value.any fun v => !orNull || v ≠ ""
  match c with
  | .plain => plain
  | .length => return [resultOf quoted (toString (← demanded name).length)]
  | .default orNull => if isThere orNull then plain else replaced
  | .instead orNull => if isThere orNull then replaced else return [resultOf quoted ""]
  | .required orNull => if isThere orNull then plain else missing r name orNull operand
  | .assigned orNull =>
    if isThere orNull then plain
    else if !isName name then fail (name ++ ": bad variable name")
    else
      setVariable name (joinedText (← r.expand operand))
      plain
  | .dropFront longest =>
    let text ← demanded name
    let items := globOf (joinedMarks (← r.expand operand))
    return [resultOf quoted (String.ofList (dropFront longest items text.toList))]
  | .dropBack longest =>
    let text ← demanded name
    let items := globOf (joinedMarks (← r.expand operand))
    return [resultOf quoted (String.ofList (dropBack longest items text.toList))]
  | .malformed => fail "Bad substitution"

def expandPart (r : Runner) (finish : Run Unit) (splits : Bool) : Part → Run (List Fragment)
  | .text quoted content => return [.literal quoted content]
  | .parameter quoted name c operand => expandParameter r splits quoted name c operand
  | .output quoted commands => do
    return [resultOf quoted (← captured finish (r.run false commands))]
  | .arithmetic quoted expression => do
    return [resultOf quoted (← calculated (joinedText (← r.expand expression)))]

def withHome (home : Option String) : Word → Word
  | .text false s :: rest =>
    match home, s.toList with
    | some home, '~' :: more =>
      if more.isEmpty && rest.isEmpty || more.head? = some '/' then
        .text true home :: .text false (String.ofList more) :: rest
      else .text false s :: rest
    | _, _ => .text false s :: rest
  | w => w

def fragmentsOf (r : Runner) (finish : Run Unit) (splits : Bool) (w : Word) :
    Run (List Fragment) := do
  let found ← w.mapM (expandPart r finish splits)
  return found.flatten

/-- Expands words; it is what a command does to each of its words. -/
structure Expander where
  /-- The words that a word becomes. -/
  words : Word → Run (List String)
  /-- The one text that a word becomes. -/
  text : Word → Run String
  marks : Word → Run (List Marked)

def expander (r : Runner) (finish : Run Unit) : Expander where
  words w := do
    let w := withHome ((← process).value? "HOME") w
    let found ← fragmentsOf r finish true w
    let p ← process
    let files ← filesHere
    return (fieldsOf (separators p) found).flatMap (wordsOf files (!p.isOn 'f'))
  text w := do
    let w := withHome ((← process).value? "HOME") w
    return joinedText (← fragmentsOf r finish false w)
  marks w := do
    let w := withHome ((← process).value? "HOME") w
    return joinedMarks (← fragmentsOf r finish false w)

end Scriptwright.Shell
