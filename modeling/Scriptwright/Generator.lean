import Scriptwright.Companion
import Scriptwright.Config
import Scriptwright.Description.Analyzer
import Scriptwright.Template.Definition
import Scriptwright.Template.Engine
import Scriptwright.Validation.ProcessChecker
import Scriptwright.Validation.Validator

/-!
The whole way from a request to a result: analyse the description, choose a language, render a
template, validate the script, and add the files that go with it.
-/
namespace Scriptwright

structure Generator (R : Renderer := Markup.renderer) where
  config : Config
  vocabulary : Vocabulary
  engine : Engine R
  checker : SyntaxChecker
  /-- Whether validated scripts are to bear the signature mark. -/
  attribution : Bool := config.compliance

/-- A generator at work: the questions its checker has been asked so far, the last one first. -/
structure Session (R : Renderer := Markup.renderer) where
  generator : Generator R
  asked : List SyntaxCheck := []

/-- A request with the time and the outside circumstances of its service. -/
structure Job (R : Renderer := Markup.renderer) where
  request : GenerationRequest
  now : Moment
  outside : R.Outside := R.quiet

variable {R : Renderer}

structure Draft where
  analysis : Analysis
  language : Language
  script : RenderedScript

namespace Generator

/-- The language of the request, else that of the configuration, else what the analysis suggests. -/
def language (g : Generator R) (request : GenerationRequest) (a : Analysis) : Language :=
  ((request.language.bind (·.explicit?)).or g.config.defaultLanguage.explicit?).getD
    a.suggestedLanguage

/-- The script for a request; nothing is checked yet. -/
def draft (g : Generator R) (now : Moment) (request : GenerationRequest)
    (outside : R.Outside := R.quiet) : Except GenerationError Draft := do
  if Text.isBlankText request.description.toList then
    throw (.invalidRequest "description must not be empty")
  let analysis ← (Description.analyze g.vocabulary request.description).mapError
    fun e => .analysis e.message
  let language := g.language request analysis
  let script ← g.engine.render now language analysis request.templateOverrides outside
  return { analysis, language, script }

def analyzerHealth (g : Generator R) (now : Moment) : ComponentHealth :=
  .healthy now "analyzer" (some (.object [
    ("pythonCategories", .nat g.vocabulary.python.length),
    ("bashCategories", .nat g.vocabulary.bash.length)]))

def health (g : Generator R) (now : Moment) : HealthReport :=
  .ofComponents now [g.analyzerHealth now, g.engine.health now, g.checker.probe now]

def ofConfig (config : Config) (host : Host) : Except GenerationError Generator := do
  let catalog := match config.templateDirectory with
    | some directory => (Catalog.builtin.loadDirectory host.files directory).1
    | none => Catalog.builtin
  let engine ← Engine.ofCatalog catalog
  let checker : ProcessChecker :=
    { python := .python config.pythonProgram
      bash := .bash config.bashProgram
      timeout := config.syntaxTimeout
      tempRoot := config.tempRoot }
  return { config, vocabulary := .standard, engine, checker := checker.checker host }

end Generator

namespace Draft

def check (d : Draft) : SyntaxCheck := ⟨d.script.code, d.language⟩

def linuxCommands : List String := ["systemctl", "service", "apt", "yum"]

def permissions (r : Requirements) : List String :=
  (if r.fileSystemAccess then ["file_system_read_write"] else []) ++
    (if r.networkAccess then ["network_access"] else []) ++
    (if r.systemCommands.isEmpty then [] else ["execute_system_commands"]) ++
    (if r.guiRequired then ["gui_display"] else [])

def platform (d : Draft) : List String :=
  match d.language with
  | .python => ["linux", "windows", "macos"]
  | .bash =>
    let commands := d.analysis.requirements.systemCommands ++ d.script.dependencies
    if commands.any linuxCommands.contains then ["linux", "macos"]
    else ["linux", "macos", "windows-wsl"]

def metadata (d : Draft) (now : Moment) : Metadata where
  templateUsed := d.script.template
  generatedAt := now.exact
  requirements := d.analysis.requirements
  estimatedComplexity := d.analysis.complexity
  dependencies := d.script.dependencies
  permissions := permissions d.analysis.requirements
  platform := d.platform
  signature := .current

def artifact (d : Draft) : Artifact where
  code := d.script.code
  language := d.language
  analysis := d.analysis
  dependencies := d.script.dependencies

/-- The result for a script with its validation. -/
def result (d : Draft) (now : Moment) (request : GenerationRequest) (v : ValidationResult) :
    GenerationResult :=
  let findings := d.script.findings
  { success := v.isValid && d.script.code ≠ ""
    code := d.script.code
    language := d.language
    metadata := d.metadata now
    errors := findings.errors ++ v.syntaxErrors
    warnings := findings.warnings ++ v.securityWarnings ++ v.notices
    suggestions := findings.suggestions ++ v.recommendations
    companions := Companion.build request d.artifact }

end Draft

namespace Session

def ask (s : Session R) (c : SyntaxCheck) : Except GenerationError Verdict × Session R :=
  (s.generator.checker.answer s.asked.length c, { s with asked := c :: s.asked })

/-- The validation of a draft, if the configuration wants one. -/
def validate (s : Session R) (d : Draft) : ValidationResult × Session R :=
  if s.generator.config.validateScripts then
    let (answer, s') := s.ask d.check
    (Scriptwright.validate s.generator.attribution d.check answer, s')
  else (.skipped, s)

/-- The result of a request; a failure is a result too. -/
def generate (s : Session R) (now : Moment) (request : GenerationRequest)
    (outside : R.Outside := R.quiet) : GenerationResult × Session R :=
  match s.generator.draft now request outside with
  | .error e => (.failure now e, s)
  | .ok d =>
    let (v, s') := s.validate d
    (d.result now request v, s')

def serve (s : Session R) : List (Job R) → List GenerationResult × Session R
  | [] => ([], s)
  | job :: jobs =>
    let (r, s) := s.generate job.now job.request job.outside
    let (rs, s) := s.serve jobs
    (r :: rs, s)

def serveBatch (s : Session R) (jobs : List (Job R)) : BatchReport × Session R :=
  let (results, s) := s.serve jobs
  (.ofResults results, s)

def generateBatch (s : Session R) (now : Moment) (requests : List GenerationRequest) :
    BatchReport × Session R :=
  s.serveBatch (requests.map fun request => { request, now })

def kdeRequest (description command : String) : GenerationRequest where
  description :=
    description ++ " - Transform command \"" ++ command ++ "\" for KDE Connect execution"
  language := some (.only .bash)
  integrations := [{ kind := .kdeConnect }]
  templateOverrides :=
    [("original_command", .string command),
      ("transformed_logic", .string (command ++ " && notify-send \"Command executed\""))]

def nemoRequest (description actionName : String) : GenerationRequest where
  description :=
    description ++ " - Create Nemo file manager action \"" ++ actionName ++ "\""
  language := some (.only .bash)
  integrations := [{ kind := .nemo }]
  templateOverrides := [("action_name", .string actionName)]

def generateKdeConnect (s : Session R) (now : Moment) (description command : String)
    (outside : R.Outside := R.quiet) : GenerationResult × Session R :=
  s.generate now (kdeRequest description command) outside

def generateNemoAction (s : Session R) (now : Moment) (description actionName : String)
    (outside : R.Outside := R.quiet) : GenerationResult × Session R :=
  s.generate now (nemoRequest description actionName) outside

end Session

end Scriptwright
