import Scriptwright.CommandLine.Reading
import Scriptwright.Config
import Scriptwright.Logging
import Scriptwright.Request

/-!
What a command line asks for. The place closest to the command decides about an option: behind the
command, then before it, then the environment.
-/
namespace Scriptwright.CommandLine

inductive Command where
  | generate (request : GenerationRequest) (output : Option String) (json : Bool)
  | batch (file : String) (json : Bool)
  | kdeTransform (command name : String) (output : Option String)
  | nemoAction (description name directory : String)
  | health

structure Invocation where
  configFile : Option String
  /-- What goes before the configuration file. -/
  options : ConfigPatch
  verbose : Bool
  command : Command

structure Sources where
  reading : Reading
  environment : Environment

namespace Sources

def has (s : Sources) (o : OptionSpec) : Bool :=
  (s.reading.inner.lookup o.name).isSome || (s.reading.outer.lookup o.name).isSome

def value? (s : Sources) (o : OptionSpec) : Option String :=
  ((s.reading.inner.lookup o.name).or (s.reading.outer.lookup o.name)).or
    (o.environment.bind fun v => s.environment.lookup v)

/-- Whether a place reads the environment for an option: it offers the option, and the words there
do not give it. -/
def asks (offered : List OptionSpec) (given : Given) (o : OptionSpec) : Bool :=
  offered.contains o && (given.lookup o.name).isNone

/-- Whether the environment has nothing unusable for an option that some place reads from it. -/
def isUsable (s : Sources) (c : CommandName) (o : OptionSpec) : Bool :=
  match o.environment.bind fun v => s.environment.lookup v with
  | none => true
  | some v =>
    o.value.all (·.accepts v) ||
      !(asks OptionSpec.shared s.reading.outer o || asks c.options s.reading.inner o)

def language? (s : Sources) (o : OptionSpec) : Option LanguagePreference :=
  s.value? o >>= LanguagePreference.ofTag?

/-- The language of a single request, which is the default language too. -/
def requestLanguage (s : Sources) : LanguagePreference :=
  ((s.language? .language).or (s.language? .defaultLanguage)).getD .auto

def request (s : Sources) (description : String) : GenerationRequest where
  description
  language := some s.requestLanguage
  integrations :=
    (if s.has .nemo then [{ kind := .nemo }] else []) ++
      (if s.has .kde then [{ kind := .kdeConnect }] else []) ++
      (if s.has .vscode then [{ kind := .vscode }] else [])
  includeTests := s.has .tests
  includeDocumentation := s.has .docs

def command? (s : Sources) : CommandName → List String → Option Command
  | .generate, [description] =>
    some (.generate (s.request description) (s.value? .output) (s.has .json))
  | .batch, [file] => some (.batch file (s.has .json))
  | .kdeTransform, [command] =>
    some (.kdeTransform command ((s.value? .title).getD "Transformed Command") (s.value? .output))
  | .nemoAction, [description] =>
    some (.nemoAction description ((s.value? .title).getD "Custom Action")
      ((s.value? .output).getD "nemo_action"))
  | .health, [] => some .health
  | _, _ => none

def options (s : Sources) (c : CommandName) : ConfigPatch where
  defaultLanguage :=
    match c with
    | .generate => some s.requestLanguage
    | _ => s.language? .defaultLanguage
  templateDirectory := s.value? .templateDirectory
  validateScripts := if s.has .noValidate then some false else none
  compliance := if s.has .noCompliance then some false else none
  syntaxTimeoutSeconds := s.value? .syntaxTimeout >>= wholeNumber?
  pythonProgram := s.value? .python
  bashProgram := s.value? .bash
  tempRoot := s.value? .tempRoot
  outputDirectory := s.value? .outputDirectory

end Sources

namespace Invocation

def ofSources? (s : Sources) : Option Invocation := do
  let name ← s.reading.command
  if !OptionSpec.shared.all (s.isUsable name) then none
  let command ← s.command? name s.reading.operands
  return { configFile := s.value? .configFile, options := s.options name,
           verbose := s.has .verbose, command }

def ofWords (words : List String) (environment : Environment) : Except Stop Invocation := do
  let reading ← Reading.ofWords words
  match ofSources? ⟨reading, environment⟩ with
  | some i => return i
  | none => throw .usage

end Invocation

end Scriptwright.CommandLine
