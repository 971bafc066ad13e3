import Scriptwright.CommandLine.Invocation
import Scriptwright.Generator

/-!
Running a command: what it prints, which files it writes, and how it ends.
-/
namespace Scriptwright.CommandLine

inductive RunError where
  | logDirectory (path : String) (cause : StorageError)
  | config (cause : ConfigError)
  | generator (cause : GenerationError)
  | batchUnreadable (path : String) (cause : StorageError)
  | batchMalformed (format path : String)
  | directory (path : String) (cause : StorageError)
  | unwritten (path : String) (cause : StorageError)
deriving DecidableEq, Repr

def RunError.message : RunError → String
  | .logDirectory path cause => "failed to create log directory " ++ path ++ ": " ++ cause.message
  | .config cause => cause.fullMessage
  | .generator cause => "failed to initialize the script generator: " ++ cause.message
  | .batchUnreadable path cause =>
    "failed to read batch file " ++ Text.quoted path ++ ": " ++ cause.message
  | .batchMalformed format path => "failed to parse " ++ format ++ " batch " ++ Text.quoted path
  | .directory path cause =>
    "failed to create directory " ++ Text.quoted path ++ ": " ++ cause.message
  | .unwritten path cause => "failed to write " ++ Text.quoted path ++ ": " ++ cause.message

structure Console where
  files : FileTree
  output : String := ""
  errors : String := ""

namespace Console

def print (c : Console) (text : String) : Console := { c with output := c.output ++ text ++ "\n" }

def note (c : Console) (text : String) : Console := { c with errors := c.errors ++ text ++ "\n" }

def bulletLines : Nat → List String → List String
  | _, [] => []
  | n, item :: items => ("  " ++ toString n ++ ". " ++ item) :: bulletLines (n + 1) items

/-- A numbered list under its title; an empty one is not shown. -/
def bullets (c : Console) (title : String) (items : List String) : Console :=
  if items.isEmpty then c else (bulletLines 1 items).foldl note (c.note (title ++ ":"))

end Console

structure SavedFile where
  /-- What the note about it calls it. -/
  label : String
  path : String
  content : String
  executable : Bool
deriving DecidableEq, Repr

namespace SavedFile

/-- Where a companion of the script at `path` goes: next to it, home directories left aside. -/
def companionPath (path : String) (f : CompanionFile) : String :=
  let directory := (Path.parent? path).getD "."
  Path.join directory (if Text.beginsWith f.path "~" then f.filename else f.path)

/-- The script of a result at `path`, then its companions. -/
def all (path : String) (r : GenerationResult) : List SavedFile :=
  ⟨"Script", path, r.code, true⟩ ::
    r.companions.map fun f =>
      ⟨f.kind ++ " file", companionPath path f, f.content, f.executable⟩

def write (f : SavedFile) (files : FileTree) : Except RunError FileTree := do
  let files ← match Path.parent? f.path with
    | none | some "" => pure files
    | some above => (files.makeDirectories above).mapError (.directory above)
  let files ← (files.writeText f.path f.content).mapError (.unwritten f.path)
  if f.executable then (files.markExecutable f.path).mapError (.unwritten f.path)
  else return files

end SavedFile

/-- A run up to some point, with the reason if it has to end there. -/
abbrev Progress := Console × Option RunError

namespace Console

/-- Writes the files one after another, up to the first that cannot be written. -/
def save (c : Console) : List SavedFile → Progress
  | [] => (c, none)
  | f :: fs =>
    match f.write c.files with
    | .error e => (c, some e)
    | .ok files => ({ c with files }.note (f.label ++ " saved to " ++ f.path)).save fs

def findings (c : Console) (r : GenerationResult) : Console :=
  ((c.bullets "Errors" r.errors).bullets "Warnings" r.warnings).bullets "Suggestions" r.suggestions

/-- Prints a result: all of it as JSON, else its script if no file takes it. -/
def printResult (c : Console) (r : GenerationResult) (output : Option String) (json : Bool) :
    Console :=
  if json then c.print r.toValue.pretty
  else if (output.isNone || !r.success) && r.code ≠ "" then c.print r.code
  else c

/-- Prints a result, and saves its files if it is a success. -/
def report (c : Console) (r : GenerationResult) (output : Option String) (json : Bool) :
    Progress :=
  let files := match output with
    | some path => if r.success then SavedFile.all path r else []
    | none => []
  match (c.printResult r output json).save files with
  | (c, some e) => (c, some e)
  | (c, none) => (if json then c else c.findings r, none)

def batchLine (c : Console) (n : Nat) (r : GenerationResult) : Console :=
  let status := if r.success then "ok" else "failed"
  let line := "[" ++ toString n ++ "] " ++ status ++ ": " ++ r.metadata.templateUsed ++ " (" ++
    r.language.tag ++ ")"
  (c.print line).bullets "Errors" r.errors

def batchLines (c : Console) : Nat → List GenerationResult → Console
  | _, [] => c
  | n, r :: rs => (c.batchLine n r).batchLines (n + 1) rs

def batch (c : Console) (b : BatchReport) (json : Bool) : Console :=
  if json then c.print b.toValue.pretty
  else
    (c.batchLines 1 b.results).print
      ("Batch complete: " ++ toString b.successful ++ " successful, " ++ toString b.failed ++
        " failed")

end Console

structure Outcome where
  files : FileTree
  output : String
  errors : String
  exit : Nat

namespace Outcome

def ofProgress (success : Bool) : Progress → Outcome
  | (c, none) => ⟨c.files, c.output, c.errors, if success then 0 else 1⟩
  | (c, some e) =>
    let c := c.note ("Error: " ++ e.message)
    ⟨c.files, c.output, c.errors, 1⟩

end Outcome

/-- The file name of an action: its words in lower case. -/
def slug (name : String) : String :=
  match (Text.words name.toList).map Text.lowercase with
  | [] => "action"
  | words => Text.joinWith "_" (words.map String.ofList)

def actionPath (directory name : String) : String := Path.join directory (slug name ++ ".sh")

/-- Requests of a batch file: JSON if its name says so, else YAML. -/
def readBatch (files : FileTree) (path : String) : Except RunError (List GenerationRequest) := do
  let text ← (files.readText path).mapError (.batchUnreadable path)
  let shape := Shape.list GenerationRequest.shape
  let isJson := (Path.extension? path).any fun e => Text.asciiLowercase e = "json"
  let value := if isJson then Document.json? shape text else Document.yaml? shape text
  match value >>= (·.asList? GenerationRequest.ofValue?) with
  | some requests => return requests
  | none => throw (.batchMalformed (if isJson then "JSON" else "YAML") path)

namespace Command

/-- Where the script of a command goes, if it goes to a file. -/
def scriptPath? (config : Config) : Command → Option String
  | generate _ output _ | kdeTransform _ _ output => output.map config.resolveOutput
  | nemoAction _ name directory => some (actionPath (config.resolveOutput directory) name)
  | batch .. | health => none

def run (now : Moment) (g : Generator) (c : Console) (command : Command) : Outcome :=
  let path := command.scriptPath? g.config
  let start : Session := { generator := g }
  match command with
  | generate request _ json =>
    let (r, _) := start.generate now request
    .ofProgress r.success (c.report r path json)
  | batch file json =>
    match readBatch c.files file with
    | .error e => .ofProgress false (c, some e)
    | .ok requests =>
      let (b, _) := start.generateBatch now requests
      .ofProgress (b.failed = 0) (c.batch b json, none)
  | kdeTransform command name _ =>
    let (r, _) := start.generateKdeConnect now ("Transform the command: " ++ command) command
    let c := if r.success then c.note ("KDE Connect script '" ++ name ++ "' generated") else c
    .ofProgress r.success (c.report r path false)
  | nemoAction description name _ =>
    let (r, _) := start.generateNemoAction now description name
    .ofProgress r.success (c.report r path false)
  | health =>
    let report := g.health now
    .ofProgress (report.status.exitCode = 0) (c.print report.toValue.pretty, none)

end Command

namespace Invocation

/-- Log files get their directory before anything else happens. -/
def prepareLogs (l : Logging) (files : FileTree) : Except RunError FileTree :=
  match l.output with
  | .file => (files.makeDirectories l.directory).mapError (.logDirectory l.directory)
  | _ => .ok files

/-- The configuration that holds for a command, if it is usable. -/
def config (i : Invocation) (files : FileTree) : Except RunError Config := do
  let config ← (Config.load files i.configFile i.options).mapError .config
  match config.problem? files with
  | some e => throw (.config e)
  | none => return config

def generator (i : Invocation) (host : Host) : Except RunError Generator := do
  let config ← i.config host.files
  (Generator.ofConfig config host).mapError .generator

def run (i : Invocation) (environment : Environment) (now : Moment) (host : Host) : Outcome :=
  match prepareLogs (Logging.ofEnvironment environment) host.files with
  | .error e => .ofProgress false ({ files := host.files }, some e)
  | .ok files =>
    match i.generator { host with files } with
    | .error e => .ofProgress false ({ files }, some e)
    | .ok g => i.command.run now g { files }

end Invocation

def versionLine : String := generatorName ++ " " ++ generatorVersion

def optionLine (o : OptionSpec) : String :=
  let letter := match o.short with
    | some c => "-" ++ c.toString ++ ", "
    | none => "    "
  "  " ++ letter ++ o.label ++ if o.value.isSome then " <VALUE>" else ""

def commandLine (c : CommandName) : String :=
  Text.joinWith " " (("  " ++ c.word) :: c.operands.map fun o => "<" ++ o.1 ++ ">")

def helpText : String :=
  Text.joinWith "\n" (["Generate Python and Bash scripts from plain-language descriptions", "",
    "Usage: " ++ generatorName ++ " [OPTIONS] <COMMAND>", "", "Commands:"] ++
    CommandName.all.map commandLine ++ ["", "Options:"] ++ OptionSpec.shared.map optionLine ++
    (CommandName.all.filter fun c => !c.own.isEmpty).flatMap fun c =>
      ["", "Options of " ++ c.word ++ ":"] ++ c.own.map optionLine)

def run (words : List String) (environment : Environment) (now : Moment) (host : Host) : Outcome :=
  match Invocation.ofWords words environment with
  | .ok i => i.run environment now host
  | .error .version => ⟨host.files, versionLine ++ "\n", "", 0⟩
  | .error .help => ⟨host.files, helpText ++ "\n", "", 0⟩
  | .error .usage => ⟨host.files, "", helpText ++ "\n", 2⟩

end Scriptwright.CommandLine
