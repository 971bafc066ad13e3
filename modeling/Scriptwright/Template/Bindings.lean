import Scriptwright.Analysis
import Scriptwright.Moment
import Scriptwright.Template.Basic

/-!
What a template is rendered with. Four layers bind variables, each over the ones before it: the
defaults of the template, what the analysis says, what the kind of script brings along, and what
the caller wants.
-/
namespace Scriptwright.Template

def say (language : Language) (message : String) : String :=
  match language with
  | .python => "print(\"" ++ message ++ "\")"
  | .bash => "echo \"" ++ message ++ "\""

def block (language : Language) (comment message : String) : String :=
  "# " ++ comment ++ "\n" ++ say language message

def mainParts (a : Analysis) : List (String × String) :=
  let needs := a.requirements
  let part := fun (wanted : Bool) (comment message : String) =>
    if wanted then [(comment, message)] else []
  part (needs.fileSystemAccess && a.intent.actions.contains "read")
    "File reading logic" "Reading input files" ++
  part (needs.fileSystemAccess && a.intent.actions.contains "write")
    "File writing logic" "Writing output files" ++
  part needs.networkAccess "Network operations" "Performing network requests" ++
  part needs.guiRequired "GUI setup and interaction" "Setting up the interface"

def mainLogic (language : Language) (a : Analysis) : String :=
  match mainParts a with
  | [] => block language "Main functionality" "Hello, World!"
  | parts => Text.joinWith "\n" (parts.map fun (comment, message) => block language comment message)

def defaults (t : Template) : Entries :=
  t.parameters.filterMap fun v => v.default.map (v.name, ·)

def analysisBindings (now : Moment) (language : Language) (a : Analysis) : Entries :=
  [("timestamp", .string now.stamp), ("description", a.intent.primary.toValue),
    ("complexity", a.complexity.toValue), ("imports", .strings a.requirements.libraries),
    ("commands", .strings a.requirements.systemCommands),
    ("main_logic", .string (mainLogic language a))]

def kindBindings : IntentCategory → Entries
  | .nemoIntegration =>
    [("action_name", .string "Custom Action"),
      ("file_logic", .string "echo \"Processing file: $file\"")]
  | .kdeConnect =>
    [("original_command", .string "ls -la"),
      ("transformed_logic", .string "ls -la && notify-send \"Command executed\"")]
  | .guiApplication =>
    [("app_name", .string "Generated App"),
      ("features", .strings ["main_window", "menu_bar", "status_bar"])]
  | _ => []

def bindings (t : Template) (now : Moment) (language : Language) (a : Analysis)
    (overrides : Entries) : Entries :=
  let layers : List Entries :=
    [t.defaults, analysisBindings now language a, kindBindings a.intent.primary, overrides]
  layers.foldl Entries.setAll []

def boundStrings (bindings : Entries) (name : String) : List String :=
  match bindings.get? name with
  | some (.array items) => items.filterMap Value.asString?
  | _ => []

/-- Requirements of the template, then libraries and commands, each once. -/
def dependencies (t : Template) (bindings : Entries) : List String :=
  distinct (t.requirements ++ boundStrings bindings "imports" ++ boundStrings bindings "commands")

end Scriptwright.Template
