import Scriptwright.Document.Json
import Scriptwright.Document.Toml.Reader
import Scriptwright.Document.Yaml.Reader
import Scriptwright.Language
import Scriptwright.Storage.FileTree
import Scriptwright.Text.Case
import Scriptwright.Text.Quoted
import Scriptwright.Text.Words

/-!
The configuration of the generator: defaults, then a configuration file, then what the command line
and the environment say.
-/
namespace Scriptwright

structure Config where
  /-- For requests that leave the choice open. -/
  defaultLanguage : LanguagePreference := .auto
  /-- Templates of the user. -/
  templateDirectory : Option String := none
  validateScripts : Bool := true
  /-- Whether scripts without the signature mark get a recommendation. -/
  compliance : Bool := true
  syntaxTimeoutSeconds : Nat := 10
  pythonProgram : String := "python3"
  bashProgram : String := "bash"
  /-- Where scratch directories of syntax checks are made. -/
  tempRoot : Option String := none
  /-- The base of relative output paths. -/
  outputDirectory : Option String := none
deriving DecidableEq, Repr

/-- A part of a configuration; what is absent leaves a configuration as it is. -/
structure ConfigPatch where
  defaultLanguage : Option LanguagePreference := none
  templateDirectory : Option String := none
  validateScripts : Option Bool := none
  compliance : Option Bool := none
  syntaxTimeoutSeconds : Option Nat := none
  pythonProgram : Option String := none
  bashProgram : Option String := none
  tempRoot : Option String := none
  outputDirectory : Option String := none
deriving DecidableEq, Repr

namespace ConfigPatch

def fields : List (String × Shape) :=
  [("default_language", .optional .choice), ("template_directory", .optional .text),
    ("validate_scripts", .optional .truth), ("compliance", .optional .truth),
    ("syntax_timeout_secs", .optional .natural), ("python_program", .optional .text),
    ("bash_program", .optional .text), ("temp_root", .optional .text),
    ("output_directory", .optional .text)]

def ofValue? (v : Value) : Option ConfigPatch := do
  let _ ← v.asEntries?
  let defaultLanguage ← v.optional "default_language" LanguagePreference.ofValue?
  let templateDirectory ← v.optional "template_directory" (·.asString?)
  let validateScripts ← v.optional "validate_scripts" (·.asBool?)
  let compliance ← v.optional "compliance" (·.asBool?)
  let syntaxTimeoutSeconds ← v.optional "syntax_timeout_secs" (·.asNat?)
  let pythonProgram ← v.optional "python_program" (·.asString?)
  let bashProgram ← v.optional "bash_program" (·.asString?)
  let tempRoot ← v.optional "temp_root" (·.asString?)
  let outputDirectory ← v.optional "output_directory" (·.asString?)
  return { defaultLanguage, templateDirectory, validateScripts, compliance, syntaxTimeoutSeconds,
           pythonProgram, bashProgram, tempRoot, outputDirectory }

def apply (p : ConfigPatch) (c : Config) : Config where
  defaultLanguage := p.defaultLanguage.getD c.defaultLanguage
  templateDirectory := p.templateDirectory.or c.templateDirectory
  validateScripts := p.validateScripts.getD c.validateScripts
  compliance := p.compliance.getD c.compliance
  syntaxTimeoutSeconds := p.syntaxTimeoutSeconds.getD c.syntaxTimeoutSeconds
  pythonProgram := p.pythonProgram.getD c.pythonProgram
  bashProgram := p.bashProgram.getD c.bashProgram
  tempRoot := p.tempRoot.or c.tempRoot
  outputDirectory := p.outputDirectory.or c.outputDirectory

end ConfigPatch

inductive ConfigError where
  | missingFile (path : String)
  | unreadable (path : String) (cause : StorageError)
  | malformed (format path : String)
  | unknownExtension (extension : String)
  | zeroTimeout
  | noPython
  | noBash
  | badTempRoot (path : String)
deriving DecidableEq, Repr

namespace ConfigError

def message : ConfigError → String
  | .missingFile path => "config file " ++ Text.quoted path ++ " does not exist"
  | .unreadable path _ => "failed to read config file " ++ Text.quoted path
  | .malformed format path => "failed to parse " ++ format ++ " config " ++ Text.quoted path
  | .unknownExtension extension => "unsupported config extension: " ++ extension
  | .zeroTimeout => "syntax_timeout_secs must be greater than zero"
  | .noPython => "python_program must not be empty"
  | .noBash => "bash_program must not be empty"
  | .badTempRoot path => "temp_root " ++ Text.quoted path ++ " is not a directory"

def fullMessage (e : ConfigError) : String :=
  match e with
  | .unreadable _ cause => e.message ++ ": " ++ cause.message
  | e => e.message

end ConfigError

namespace Config

inductive Format where
  | yaml
  | json
  | toml
deriving DecidableEq, Repr

namespace Format

def name : Format → String
  | .yaml => "YAML"
  | .json => "JSON"
  | .toml => "TOML"

def ofExtension? : String → Option Format
  | "yaml" | "yml" => some .yaml
  | "json" => some .json
  | "toml" => some .toml
  | _ => none

/-- The entries of a file; unknown and repeated keys are errors. -/
def read? (format : Format) (text : String) : Option ConfigPatch :=
  let shape := Shape.closedRecord ConfigPatch.fields
  let value := match format with
    | .yaml => Document.yaml? shape text
    | .json => Document.json? shape text
    | .toml => Document.toml? ConfigPatch.fields text
  value >>= ConfigPatch.ofValue?

end Format

def readFile (files : FileTree) (path : String) : Except ConfigError ConfigPatch :=
  if !files.contains path then .error (.missingFile path)
  else
    match files.readText path with
    | .error cause => .error (.unreadable path cause)
    | .ok text =>
      let extension := Text.asciiLowercase ((Path.extension? path).getD "")
      match Format.ofExtension? extension with
      | none => .error (.unknownExtension extension)
      | some format =>
        match format.read? text with
        | some patch => .ok patch
        | none => .error (.malformed format.name path)

/-- Defaults, then the file if one is named, then `options`. -/
def load (files : FileTree) (path : Option String) (options : ConfigPatch) :
    Except ConfigError Config := do
  match path with
  | none => return options.apply {}
  | some path =>
    let patch ← readFile files path
    return options.apply (patch.apply {})

def problem? (c : Config) (files : FileTree) : Option ConfigError :=
  if c.syntaxTimeoutSeconds = 0 then some .zeroTimeout
  else if Text.isBlankText c.pythonProgram.toList then some .noPython
  else if Text.isBlankText c.bashProgram.toList then some .noBash
  else
    match c.tempRoot with
    | some root => if files.isDirectory root then none else some (.badTempRoot root)
    | none => none

def syntaxTimeout (c : Config) : Nat := c.syntaxTimeoutSeconds * 1000

/-- An output path, seen from the output directory. -/
def resolveOutput (c : Config) (path : String) : String :=
  match c.outputDirectory with
  | some directory => Path.join directory path
  | none => path

def shape : Shape := .record ConfigPatch.fields

def toValue (c : Config) : Value :=
  let path := fun (p : Option String) =>
    match p with
    | some s => Value.string s
    | none => .null
  .object [("default_language", c.defaultLanguage.toValue),
    ("template_directory", path c.templateDirectory),
    ("validate_scripts", .bool c.validateScripts), ("compliance", .bool c.compliance),
    ("syntax_timeout_secs", .nat c.syntaxTimeoutSeconds),
    ("python_program", .string c.pythonProgram), ("bash_program", .string c.bashProgram),
    ("temp_root", path c.tempRoot), ("output_directory", path c.outputDirectory)]

/-- A whole configuration: only the paths may be absent. -/
def ofValue? (v : Value) : Option Config := do
  let defaultLanguage ← v.required "default_language" LanguagePreference.ofValue?
  let templateDirectory ← v.optional "template_directory" (·.asString?)
  let validateScripts ← v.required "validate_scripts" (·.asBool?)
  let compliance ← v.required "compliance" (·.asBool?)
  let syntaxTimeoutSeconds ← v.required "syntax_timeout_secs" (·.asNat?)
  let pythonProgram ← v.required "python_program" (·.asString?)
  let bashProgram ← v.required "bash_program" (·.asString?)
  let tempRoot ← v.optional "temp_root" (·.asString?)
  let outputDirectory ← v.optional "output_directory" (·.asString?)
  return { defaultLanguage, templateDirectory, validateScripts, compliance, syntaxTimeoutSeconds,
           pythonProgram, bashProgram, tempRoot, outputDirectory }

end Config

end Scriptwright
