import Scriptwright.Language

/-!
What a description asks for: the kind of script, what else it should take care of, and the actions
and objects it names.
-/
namespace Scriptwright

inductive IntentCategory where
  | nemoIntegration
  | kdeConnect
  | webAutomation
  | systemAdministration
  | guiApplication
  | fileProcessing
  | dataProcessing
  | generalScripting
deriving DecidableEq, Repr

namespace IntentCategory

def all : List IntentCategory :=
  [.nemoIntegration, .kdeConnect, .webAutomation, .systemAdministration, .guiApplication,
    .fileProcessing, .dataProcessing, .generalScripting]

def tag : IntentCategory → String
  | .nemoIntegration => "nemo_integration"
  | .kdeConnect => "kde_connect"
  | .webAutomation => "web_automation"
  | .systemAdministration => "system_administration"
  | .guiApplication => "gui_application"
  | .fileProcessing => "file_processing"
  | .dataProcessing => "data_processing"
  | .generalScripting => "general_scripting"

def ofTag? (s : String) : Option IntentCategory := all.find? (·.tag = s)

theorem ofTag?_tag (c : IntentCategory) : ofTag? c.tag = some c := by cases c <;> decide

def isIntegration : IntentCategory → Bool
  | .nemoIntegration | .kdeConnect => true
  | _ => false

def toValue (c : IntentCategory) : Value := .string c.tag

def ofValue? (v : Value) : Option IntentCategory := v.asTag? >>= ofTag?

end IntentCategory

inductive SecondaryIntent where
  | errorHandling
  | logging
  | testing
deriving DecidableEq, Repr

namespace SecondaryIntent

def all : List SecondaryIntent := [.errorHandling, .logging, .testing]

def tag : SecondaryIntent → String
  | .errorHandling => "error_handling"
  | .logging => "logging"
  | .testing => "testing"

def ofTag? (s : String) : Option SecondaryIntent := all.find? (·.tag = s)

theorem ofTag?_tag (i : SecondaryIntent) : ofTag? i.tag = some i := by cases i <;> decide

def toValue (i : SecondaryIntent) : Value := .string i.tag

def ofValue? (v : Value) : Option SecondaryIntent := v.asTag? >>= ofTag?

end SecondaryIntent

/-- Actions and objects are sets listed in order of first occurrence. -/
structure Intent where
  primary : IntentCategory
  secondary : List SecondaryIntent
  actions : List String
  objects : List String
deriving DecidableEq, Repr

namespace Intent

def shape : Shape :=
  .record [("primary", .choice), ("secondary", .list .choice), ("actions", .list .text),
    ("objects", .list .text)]

def toValue (i : Intent) : Value :=
  .object [("primary", i.primary.toValue), ("secondary", .array (i.secondary.map (·.toValue))),
    ("actions", .strings i.actions), ("objects", .strings i.objects)]

def ofValue? (v : Value) : Option Intent := do
  let primary ← v.required "primary" IntentCategory.ofValue?
  let secondary ← v.required "secondary" (·.asList? SecondaryIntent.ofValue?)
  let actions ← v.required "actions" (·.asStrings?)
  let objects ← v.required "objects" (·.asStrings?)
  return ⟨primary, secondary, distinct actions, distinct objects⟩

end Intent

end Scriptwright
