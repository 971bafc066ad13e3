import Scriptwright.Language

/-!
What the command line offers: its commands, their options and operands, and the values these take.
-/
namespace Scriptwright.CommandLine

inductive ValueKind where
  | text
  | path
  | number
  | language
deriving DecidableEq, Repr

/-- A whole number of 64 bits; a plus sign may stand in front. -/
def wholeNumber? (text : String) : Option Nat :=
  let digits := match text.toList with
    | '+' :: rest => rest
    | cs => cs
  let n : Nat := digits.foldl (fun n d => n * 10 + (d.toNat - '0'.toNat)) 0
  if !digits.isEmpty && digits.all Char.isDigit && Number.isUnsigned n then some n else none

/-- Whether a value is one of its kind; a path must not be empty. -/
def ValueKind.accepts (text : String) : ValueKind → Bool
  | .text => true
  | .path => text ≠ ""
  | .number => (wholeNumber? text).isSome
  | .language => (LanguagePreference.ofTag? text).isSome

structure OptionSpec where
  /-- The long name, without its dashes. -/
  name : String
  short : Option Char := none
  /-- What follows the option; a switch has no value. -/
  value : Option ValueKind := none
  /-- The variable that gives the value where the words do not. -/
  environment : Option String := none
deriving DecidableEq, Repr

namespace OptionSpec

def configFile : OptionSpec := { name := "config", value := some .path }

def defaultLanguage : OptionSpec :=
  { name := "default-language", value := some .language
    environment := some "SCRYPGEN_DEFAULT_LANGUAGE" }

def templateDirectory : OptionSpec :=
  { name := "template-dir", value := some .path, environment := some "SCRYPGEN_TEMPLATE_DIR" }

def noValidate : OptionSpec := { name := "no-validate" }

def noCompliance : OptionSpec := { name := "no-compliance" }

def syntaxTimeout : OptionSpec :=
  { name := "syntax-timeout", value := some .number
    environment := some "SCRYPGEN_SYNTAX_TIMEOUT" }

def python : OptionSpec :=
  { name := "python", value := some .text, environment := some "SCRYPGEN_PYTHON" }

def bash : OptionSpec :=
  { name := "bash", value := some .text, environment := some "SCRYPGEN_BASH" }

def tempRoot : OptionSpec :=
  { name := "temp-root", value := some .path, environment := some "SCRYPGEN_TEMP_ROOT" }

def outputDirectory : OptionSpec :=
  { name := "output-dir", value := some .path, environment := some "SCRYPGEN_OUTPUT_DIR" }

def verbose : OptionSpec := { name := "verbose", short := some 'v' }

def shared : List OptionSpec :=
  [configFile, defaultLanguage, templateDirectory, noValidate, noCompliance, syntaxTimeout, python,
    bash, tempRoot, outputDirectory, verbose]

def language : OptionSpec := { name := "language", short := some 'l', value := some .language }

def output : OptionSpec := { name := "output", short := some 'o', value := some .path }

def title : OptionSpec := { name := "name", short := some 'n', value := some .text }

def nemo : OptionSpec := { name := "nemo" }

def kde : OptionSpec := { name := "kde" }

def vscode : OptionSpec := { name := "vscode" }

def tests : OptionSpec := { name := "tests" }

def docs : OptionSpec := { name := "docs" }

def json : OptionSpec := { name := "json" }

def label (o : OptionSpec) : String := "--" ++ o.name

end OptionSpec

inductive CommandName where
  | generate
  | batch
  | kdeTransform
  | nemoAction
  | health
deriving DecidableEq, Repr

namespace CommandName

def all : List CommandName := [.generate, .batch, .kdeTransform, .nemoAction, .health]

def word : CommandName → String
  | .generate => "generate"
  | .batch => "batch"
  | .kdeTransform => "kde-transform"
  | .nemoAction => "nemo-action"
  | .health => "health"

def ofWord? (w : String) : Option CommandName := all.find? (·.word = w)

def own : CommandName → List OptionSpec
  | .generate => [.language, .output, .nemo, .kde, .vscode, .tests, .docs, .json]
  | .batch => [.json]
  | .kdeTransform | .nemoAction => [.title, .output]
  | .health => []

/-- Where a request states its language, the default language is not offered again. -/
def shared : CommandName → List OptionSpec
  | .generate => OptionSpec.shared.filter (· ≠ .defaultLanguage)
  | _ => OptionSpec.shared

def options (c : CommandName) : List OptionSpec := c.own ++ c.shared

def operands : CommandName → List (String × ValueKind)
  | .generate => [("DESCRIPTION", .text)]
  | .batch => [("FILE", .path)]
  | .kdeTransform => [("COMMAND", .text)]
  | .nemoAction => [("DESCRIPTION", .text)]
  | .health => []

end CommandName

end Scriptwright.CommandLine
