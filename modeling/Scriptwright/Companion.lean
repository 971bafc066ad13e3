import Scriptwright.Request
import Scriptwright.Result
import Scriptwright.Text.Ascending
import Scriptwright.Text.Words
import Scriptwright.Value.Printer

/-!
Files that go with a script. All of them take their names from the kind of script.
-/
namespace Scriptwright

structure Artifact where
  code : String
  language : Language
  analysis : Analysis
  dependencies : List String

namespace Artifact

def stem (a : Artifact) : String := a.analysis.intent.primary.tag

def filename (a : Artifact) : String := a.stem ++ "." ++ a.language.extension

def interpreter (a : Artifact) : String :=
  match a.language with
  | .python => "python3"
  | .bash => "bash"

end Artifact

namespace Companion

def nemoDirectory : String := "~/.local/share/nemo/actions"

def kdeDirectory : String := "~/.config/kdeconnect"

def binDirectory : String := "~/.local/bin"

/-- Words between underscores, each with a capital, with spaces between them. -/
def title (stem : String) : String :=
  let words := (Text.splitAt (· == '_') stem.toList).filter fun w => !w.isEmpty
  String.ofList (Text.unwords (words.map Text.capitalized))

def extension? (name : String) : Option String :=
  (Text.splitLast? '.' name.toList).map fun (_, ext) => String.ofList ext

def fileExtensions (a : Analysis) : List String :=
  let files := a.entities.filter (·.label = .file)
  Text.ascending (files.filterMap fun e => extension? e.text)

def extensionList (a : Analysis) : String :=
  match fileExtensions a with
  | [] => "any;"
  | extensions => String.join (extensions.map (· ++ ";"))

def firstLine (text : String) : String :=
  String.ofList (((Text.lines text.toList).head?).getD [])

/-- The label of a file manager action: from the integration, the overrides, or the script. -/
def actionName (request : GenerationRequest) (integration : Integration) (a : Artifact) : String :=
  match integration.setting? "name" with
  | some name => name
  | none =>
    match (request.templateOverrides.get? "action_name") >>= Value.asString? with
    | some name => name
    | none => title a.stem

def nemoAction (request : GenerationRequest) (integration : Integration) (a : Artifact) : String :=
  String.join [
    "[Nemo Action]\n",
    "Active=true\n",
    "Name=" ++ actionName request integration a ++ "\n",
    "Comment=" ++ firstLine request.description ++ "\n",
    "Exec=<" ++ a.filename ++ " %F>\n",
    "Icon-Name=" ++ (integration.setting? "icon").getD "system-run" ++ "\n",
    "Selection=Any\n",
    "Extensions=" ++ extensionList a.analysis ++ "\n",
    "Quote=double\n"]

def nemo (request : GenerationRequest) (integration : Integration) (a : Artifact) :
    List CompanionFile :=
  let action := a.stem ++ ".nemo_action"
  [{ kind := IntegrationKind.nemo.tag
     filename := action
     content := nemoAction request integration a
     path := nemoDirectory ++ "/" ++ action },
   { kind := IntegrationKind.nemo.tag
     filename := a.filename
     content := a.code
     path := nemoDirectory ++ "/" ++ a.filename
     executable := true }]

def kdeConnect (integration : Integration) (a : Artifact) : CompanionFile :=
  let command := Value.object [
    ("name", .string ((integration.setting? "name").getD (title a.stem))),
    ("command", .string (a.interpreter ++ " " ++ binDirectory ++ "/" ++ a.filename))]
  let filename := a.stem ++ "_kdeconnect.json"
  { kind := IntegrationKind.kdeConnect.tag
    filename
    content := (Value.object [(a.stem, command)]).pretty
    path := kdeDirectory ++ "/" ++ filename }

def vscode (a : Artifact) : CompanionFile :=
  let task := Value.object [
    ("label", .string ("Run " ++ a.filename)),
    ("type", .string "shell"),
    ("command", .string a.interpreter),
    ("args", .strings ["$\x7bworkspaceFolder\x7d/" ++ a.filename]),
    ("group", .string "build"),
    ("presentation", .object [("reveal", .string "always"), ("panel", .string "shared")]),
    ("problemMatcher", .array [])]
  { kind := IntegrationKind.vscode.tag
    filename := "tasks.json"
    content := (Value.object [("version", .string "2.0.0"), ("tasks", .array [task])]).pretty
    path := ".vscode/tasks.json" }

def installer (a : Artifact) : CompanionFile :=
  let script := a.filename
  let filename := "install_" ++ a.stem ++ ".sh"
  { kind := IntegrationKind.system.tag
    filename
    content := Text.joinWith "\n" [
      "#!/usr/bin/env bash",
      "# Installs " ++ script ++ " into " ++ binDirectory,
      "set -e",
      "",
      "SOURCE_DIR=\"$(cd \"$(dirname \"$\x7bBASH_SOURCE[0]\x7d\")\" && pwd)\"",
      "TARGET_DIR=\"$HOME/.local/bin\"",
      "",
      "mkdir -p \"$TARGET_DIR\"",
      "install -m 755 \"$SOURCE_DIR/" ++ script ++ "\" \"$TARGET_DIR/" ++ script ++ "\"",
      "echo \"Installed " ++ script ++ " to $TARGET_DIR\"",
      ""]
    path := filename
    executable := true }

def pythonTests (script : String) : String :=
  Text.joinWith "\n" [
    "\"\"\"Tests for " ++ script ++ ".\"\"\"",
    "",
    "import py_compile",
    "from pathlib import Path",
    "",
    "SCRIPT = Path(__file__).with_name(\"" ++ script ++ "\")",
    "",
    "",
    "def test_script_exists():",
    "    assert SCRIPT.is_file()",
    "",
    "",
    "def test_script_compiles():",
    "    py_compile.compile(str(SCRIPT), doraise=True)",
    ""]

def bashTests (script : String) : String :=
  Text.joinWith "\n" [
    "#!/usr/bin/env bash",
    "# Tests for " ++ script,
    "set -e",
    "",
    "SCRIPT=\"$(dirname \"$0\")/" ++ script ++ "\"",
    "",
    "if [ ! -f \"$SCRIPT\" ]; then",
    "    echo \"FAIL: $SCRIPT not found\" >&2",
    "    exit 1",
    "fi",
    "",
    "bash -n \"$SCRIPT\"",
    "echo \"PASS: $SCRIPT parses\"",
    ""]

def tests (a : Artifact) : CompanionFile :=
  let filename := "test_" ++ a.filename
  let (content, executable) := match a.language with
    | .python => (pythonTests a.filename, false)
    | .bash => (bashTests a.filename, true)
  { kind := "tests", filename, content, path := filename, executable }

def dependencyList : List String → String
  | [] => "- none"
  | ds => Text.joinWith "\n" (ds.map ("- " ++ ·))

def documentation (request : GenerationRequest) (a : Artifact) : CompanionFile :=
  let filename := a.stem ++ ".md"
  { kind := "documentation"
    filename
    content := Text.joinWith "\n" [
      "# " ++ title a.stem,
      "",
      String.ofList (Text.trim request.description.toList),
      "",
      "## Details",
      "",
      "- Language: " ++ a.language.displayName,
      "- Complexity: " ++ a.analysis.complexity.tag,
      "- Intent: " ++ a.analysis.intent.primary.tag,
      "",
      "## Dependencies",
      "",
      dependencyList a.dependencies,
      "",
      "## Usage",
      "",
      "\x60\x60\x60sh",
      a.interpreter ++ " " ++ a.filename,
      "\x60\x60\x60",
      ""]
    path := filename }

def ofIntegration (request : GenerationRequest) (a : Artifact) (i : Integration) :
    List CompanionFile :=
  match i.kind with
  | .nemo => nemo request i a
  | .kdeConnect => [kdeConnect i a]
  | .vscode => [vscode a]
  | .system => [installer a]

/-- Files of the enabled integrations in the order of the request, then tests and documentation. -/
def build (request : GenerationRequest) (a : Artifact) : List CompanionFile :=
  (request.integrations.filter (·.enabled)).flatMap (ofIntegration request a) ++
    (if request.includeTests then [tests a] else []) ++
    (if request.includeDocumentation then [documentation request a] else [])

end Companion

end Scriptwright
