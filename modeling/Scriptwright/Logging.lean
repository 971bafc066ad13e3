import Scriptwright.Signature
import Scriptwright.Text.Case

/-!
Where log lines go and what they look like, as variables of the environment choose it.
-/
namespace Scriptwright

abbrev Environment := List (String × String)

inductive LogFormat where
  | json
  | pretty
deriving DecidableEq, Repr

namespace LogFormat

def all : List LogFormat := [.json, .pretty]

def tag : LogFormat → String
  | .json => "json"
  | .pretty => "pretty"

def ofName? (name : String) : Option LogFormat :=
  let name := String.ofList (Text.lowercase name.toList)
  all.find? (·.tag = name)

end LogFormat

inductive LogOutput where
  | stdout
  | stderr
  | file
deriving DecidableEq, Repr

namespace LogOutput

def all : List LogOutput := [.stdout, .stderr, .file]

def tag : LogOutput → String
  | .stdout => "stdout"
  | .stderr => "stderr"
  | .file => "file"

def ofName? (name : String) : Option LogOutput :=
  let name := String.ofList (Text.lowercase name.toList)
  all.find? (·.tag = name)

end LogOutput

structure Logging where
  format : LogFormat
  output : LogOutput := .stderr
  /-- Of log files, if lines go there. -/
  directory : String := "logs"
  filePrefix : String := generatorName
  service : String := generatorName
  version : String := generatorVersion
  environment : String
  /-- Which lines are written. -/
  directive : String := "warn"
  /-- Whether every day has a file of its own. -/
  rotation : Bool := true
deriving DecidableEq, Repr

namespace Logging

def isProduction (environment : String) : Bool :=
  environment = "production" || environment = "prod"

/-- The name of the environment; the generator's own variable comes first. -/
def environmentName (env : Environment) : String :=
  ((env.lookup "SCRYPGEN_ENV").or (env.lookup "ENVIRONMENT")).getD "development"

def defaultFormat (environment : String) : LogFormat :=
  if isProduction environment then .json else .pretty

/-- Unknown names of formats and outputs leave the defaults. -/
def ofEnvironment (env : Environment) : Logging :=
  let environment := environmentName env
  { format := (env.lookup "LOG_FORMAT" >>= LogFormat.ofName?).getD (defaultFormat environment)
    output := (env.lookup "LOG_OUTPUT" >>= LogOutput.ofName?).getD .stderr
    directory := (env.lookup "LOG_DIR").getD "logs"
    environment }

def verbose (l : Logging) (on : Bool) : Logging :=
  if on then { l with directive := "warn," ++ generatorName ++ "=debug" } else l

end Logging

end Scriptwright
