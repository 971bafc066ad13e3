import Scriptwright.Advice
import Scriptwright.Validation.Security
import Scriptwright.Validation.SyntaxCheck

/-!
The verdict on the syntax of a script, security warnings and recommendations, all in one.
-/
namespace Scriptwright

structure ValidationResult where
  isValid : Bool := false
  syntaxErrors : List String := []
  securityWarnings : List String := []
  recommendations : List String := []
  /-- What is worth knowing but speaks neither for nor against the script. -/
  notices : List String := []
deriving DecidableEq, Repr

namespace ValidationResult

/-- What stands for a validation that was not asked for. -/
def skipped : ValidationResult := { isValid := true }

def shape : Shape :=
  .record [("isValid", .truth), ("syntaxErrors", .list .text), ("securityWarnings", .list .text),
    ("recommendations", .list .text), ("notices", .defaulted (.list .text))]

def toValue (r : ValidationResult) : Value :=
  .object ([("isValid", .bool r.isValid), ("syntaxErrors", .strings r.syntaxErrors),
    ("securityWarnings", .strings r.securityWarnings),
    ("recommendations", .strings r.recommendations)] ++
    if r.notices.isEmpty then [] else [("notices", .strings r.notices)])

def ofValue? (v : Value) : Option ValidationResult := do
  let isValid ← v.required "isValid" (·.asBool?)
  let syntaxErrors ← v.required "syntaxErrors" (·.asStrings?)
  let securityWarnings ← v.required "securityWarnings" (·.asStrings?)
  let recommendations ← v.required "recommendations" (·.asStrings?)
  let notices ← v.withDefault "notices" [] (·.asStrings?)
  return { isValid, syntaxErrors, securityWarnings, recommendations, notices }

end ValidationResult

/-- Never fails: a checker that breaks down counts as one syntax error. `attribution` asks for the
signature mark. -/
def validate (attribution : Bool) (c : SyntaxCheck) (answer : Except GenerationError Verdict) :
    ValidationResult :=
  let advised := fun (syntaxErrors notices : List String) =>
    { isValid := syntaxErrors.isEmpty
      syntaxErrors
      securityWarnings := Security.scan c.code c.language
      recommendations := Recommendation.recommend c.code c.language attribution
      notices : ValidationResult }
  match answer with
  | .ok .passed => advised [] []
  | .ok (.failed diagnostic) => advised [diagnostic] []
  | .ok (.unavailable notice) => advised [] [notice]
  | .error e => { syntaxErrors := ["Validation error: " ++ e.message] }

end Scriptwright
