import Scriptwright.Signature
import Scriptwright.Template.Basic
import Scriptwright.Text.Search
import Scriptwright.Text.Words

/-!
Advice on the structure of a script. Freshly rendered code is looked over for its template, where
only an empty script is an error; a validated script gets recommendations on its style.
-/
namespace Scriptwright

def adviseIf (condition : Bool) (advice : String) : List String :=
  if condition then [advice] else []

namespace Template

structure Findings where
  errors : List String := []
  warnings : List String := []
  suggestions : List String := []
deriving DecidableEq, Repr

def structureWarnings (language : Language) (code : String) : List String :=
  match language with
  | .python =>
    adviseIf (!Text.hasPart code "def main():")
      "Consider adding a main() function for better structure" ++
    adviseIf (!Text.hasPart code "if __name__ == \"__main__\":")
      "Consider adding main guard for better module structure"
  | .bash => adviseIf (!Text.beginsWith code "#!") "Consider adding proper shebang line"

def structureSuggestions (language : Language) (code : String) : List String :=
  match language with
  | .python =>
    adviseIf (!Text.hasPart code "try:")
      "Consider adding error handling with try/except blocks"
  | .bash =>
    adviseIf (!Text.hasPart code "set -e")
      "Consider adding \"set -e\" for better error handling"

def lint (t : Template) (code : String) : Findings :=
  if Text.isBlankText code.toList then
    { errors := ["Template '" ++ t.name ++ "' produced no code"] }
  else
    { warnings :=
        adviseIf (t.compliant && !Text.hasPart code Signature.mark)
          "Template output is missing the attribution signature" ++
        structureWarnings t.language code
      suggestions := structureSuggestions t.language code }

end Template

namespace Recommendation

def anyPart (code : String) (parts : List String) : Bool := parts.any (Text.hasPart code)

def forPython (code : String) : List String :=
  adviseIf (!anyPart code ["try:", "except"])
    "Consider adding error handling with try/except blocks" ++
  adviseIf (!anyPart code ["logging", "print"]) "Consider adding logging for better debugging" ++
  adviseIf (!Text.hasPart code "if __name__ == \"__main__\":")
    "Consider adding main guard for better module structure" ++
  adviseIf (!Text.hasPart code "\"\"\"")
    "Consider adding docstrings for better documentation" ++
  adviseIf (Text.hasPart code "import *")
    "Avoid wildcard imports - import specific functions instead"

def shebangs : List String := ["#!/usr/bin/env bash", "#!/bin/bash"]

def forBash (code : String) : List String :=
  adviseIf (!anyPart code ["echo", "printf", "logger"])
    "Consider adding logging for better debugging" ++
  adviseIf (!Text.hasPart code "set -e")
    "Consider adding \"set -e\" for better error handling" ++
  adviseIf (!shebangs.any (Text.beginsWith code))
    "Add proper shebang line for better portability" ++
  adviseIf (Text.hasPart code "$1" && !Text.hasPart code "$#")
    "Consider checking argument count before using positional parameters"

/-- The advice for a script; `attribution` asks for the signature mark too. -/
def recommend (code : String) (language : Language) (attribution : Bool) : List String :=
  let style := match language with
    | .python => forPython code
    | .bash => forBash code
  style ++ adviseIf (attribution && !Text.hasPart code Signature.mark)
    "Consider adding scrypgen attribution markers to generated code"

end Recommendation

end Scriptwright
