import Scriptwright.Shell.Script

/-!
Commands that a shell runs itself: a call with its arguments, and the numbers and names in them.
-/
namespace Scriptwright.Shell

structure Call where
  runner : Runner
  tested : Bool
  arguments : List String

/-- A command of the shell itself; it gives its status. -/
abbrev Builtin := Call → Run Nat

namespace Builtin

def natural (text : String) : Run Nat := do
  match if text.toList.all Char.isDigit then text.toNat? else none with
  | some n => return n
  | none => fail ("Illegal number: " ++ text)

def checkName (name : String) : Run Unit := do
  if !isName name then fail (name ++ ": bad variable name")

def options (allowed : List Char) : List String → Run (List Char × List String)
  | [] => return ([], [])
  | a :: rest => do
    match a.toList with
    | ['-', '-'] => return ([], rest)
    | '-' :: c :: cs =>
      match (c :: cs).find? (!allowed.contains ·) with
      | some bad => fail ("Illegal option -" ++ bad.toString)
      | none =>
        let (more, rest) ← options allowed rest
        return (c :: cs ++ more, rest)
    | _ => return ([], a :: rest)

def sourceText (value : String) : String :=
  let pieces := (Text.splitAt (· == '\'') value.toList).map String.ofList
  "'" ++ Text.joinWith "'\"'\"'" pieces ++ "'"

end Builtin

end Scriptwright.Shell
