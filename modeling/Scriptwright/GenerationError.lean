import Scriptwright.Language
import Scriptwright.Text.Search

/-!
Why a script is not made: the cause, how it reads, and what the caller can do about it. Findings
about a script that was made are not errors; they travel with its result.
-/
namespace Scriptwright

inductive ErrorCategory where
  | input
  | analysis
  | template
  | validation
  | io
  | config
deriving DecidableEq, Repr

def ErrorCategory.tag : ErrorCategory → String
  | .input => "input"
  | .analysis => "analysis"
  | .template => "template"
  | .validation => "validation"
  | .io => "io"
  | .config => "config"

inductive GenerationError where
  | invalidRequest (reason : String)
  | analysis (reason : String)
  /-- Neither the category nor the basic one has a template for the language. -/
  | templateMissing (language : Language) (category : String)
  | missingVariables (template : String) (names : List String)
  | templateRender (template detail : String)
  | templateRegistration (template detail : String)
  | templateLoad (path detail : String)
  | unusableCatalog (reason : String)
  | validation (reason : String)
  | configuration (reason : String)
  | io (reason : String)
deriving DecidableEq, Repr

namespace GenerationError

def message : GenerationError → String
  | .invalidRequest reason => "invalid request: " ++ reason
  | .analysis reason => "analysis failed: " ++ reason
  | .templateMissing language category =>
    "no template for " ++ language.tag ++ " in category '" ++ category ++
      "' and no basic fallback"
  | .missingVariables template names =>
    "template '" ++ template ++ "' is missing required variables: " ++
      Text.joinWith ", " names
  | .templateRender template detail =>
    "failed to render template '" ++ template ++ "': " ++ detail
  | .templateRegistration template detail =>
    "failed to register template '" ++ template ++ "': " ++ detail
  | .templateLoad path detail => "failed to load template definition " ++ path ++ ": " ++ detail
  | .unusableCatalog reason => "template catalog is unusable: " ++ reason
  | .validation reason => "validation could not run: " ++ reason
  | .configuration reason => "invalid configuration: " ++ reason
  | .io reason => reason

def category : GenerationError → ErrorCategory
  | .invalidRequest _ => .input
  | .analysis _ => .analysis
  | .templateMissing .. | .missingVariables .. | .templateRender .. | .templateRegistration ..
  | .templateLoad .. | .unusableCatalog _ => .template
  | .validation _ => .validation
  | .configuration _ => .config
  | .io _ => .io

/-- Whether the same request may succeed another time. -/
def retryable : GenerationError → Bool
  | .validation _ | .io _ => true
  | _ => false

def suggestion (e : GenerationError) : String :=
  match e.category with
  | .input => "Provide a non-empty description of what the script should do"
  | .template => "Check template overrides and any external template definitions"
  | .config => "Fix the configuration file or command-line options"
  | _ => "Try rephrasing your description or specifying the language explicitly"

end GenerationError

end Scriptwright
