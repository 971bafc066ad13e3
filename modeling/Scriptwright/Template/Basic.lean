import Scriptwright.Intent

/-!
Script templates: source text for one language and category, with the variables it uses. Categories
are plain names, some of them well known.
-/
namespace Scriptwright

namespace Category

def basic : String := "basic"

def gui : String := "gui"

def nemoIntegration : String := "nemo_integration"

def kdeConnect : String := "kde_connect"

def fileProcessing : String := "file_processing"

def web : String := "web"

def ofIntent : IntentCategory → String
  | .guiApplication => gui
  | .nemoIntegration => nemoIntegration
  | .kdeConnect => kdeConnect
  | .fileProcessing | .dataProcessing => fileProcessing
  | .webAutomation => web
  | .systemAdministration | .generalScripting => basic

end Category

namespace Template

inductive VariableKind where
  | string
  | array
  | boolean
  | object
deriving DecidableEq, Repr

namespace VariableKind

def all : List VariableKind := [.string, .array, .boolean, .object]

def tag : VariableKind → String
  | .string => "string"
  | .array => "array"
  | .boolean => "boolean"
  | .object => "object"

def ofTag? (s : String) : Option VariableKind := all.find? (·.tag = s)

theorem ofTag?_tag (k : VariableKind) : ofTag? k.tag = some k := by cases k <;> decide

def toValue (k : VariableKind) : Value := .string k.tag

def ofValue? (v : Value) : Option VariableKind := v.asTag? >>= ofTag?

end VariableKind

/-- A variable that a template declares; the default binds it where nothing else does. -/
structure Variable where
  name : String
  kind : VariableKind
  required : Bool
  default : Option Value
  description : String

namespace Variable

def needed (name : String) (kind : VariableKind) (description : String) : Variable :=
  ⟨name, kind, true, none, description⟩

def withDefault (name : String) (kind : VariableKind) (default : Value) (description : String) :
    Variable :=
  ⟨name, kind, false, some default, description⟩

def shape : Shape :=
  .record [("name", .text), ("type", .choice), ("required", .defaulted .truth),
    ("default", .defaulted (.optional .free)), ("description", .defaulted .text)]

def toValue (v : Variable) : Value :=
  .object ([("name", .string v.name), ("type", v.kind.toValue), ("required", .bool v.required)] ++
    Entries.ofOption "default" id v.default ++ [("description", .string v.description)])

def ofValue? (v : Value) : Option Variable := do
  let name ← v.required "name" (·.asString?)
  let kind ← v.required "type" VariableKind.ofValue?
  let required ← v.withDefault "required" false (·.asBool?)
  let default := v.field? "default"
  let description ← v.withDefault "description" "" (·.asString?)
  return ⟨name, kind, required, default, description⟩

end Variable

end Template

structure Template where
  name : String
  language : Language
  category : String
  description : String
  content : String
  parameters : List Template.Variable
  /-- What every script made from the template depends on. -/
  requirements : List String
  /-- Whether scripts made from it have to carry the attribution signature. -/
  compliant : Bool

namespace Template

def shape : Shape :=
  .record [("name", .text), ("language", .choice), ("category", .text),
    ("description", .defaulted .text), ("content", .text),
    ("variables", .defaulted (.list Variable.shape)), ("requirements", .defaulted (.list .text)),
    ("compliant", .defaulted .truth)]

def toValue (t : Template) : Value :=
  .object [("name", .string t.name), ("language", t.language.toValue),
    ("category", .string t.category), ("description", .string t.description),
    ("content", .string t.content), ("variables", .array (t.parameters.map (·.toValue))),
    ("requirements", .strings t.requirements), ("compliant", .bool t.compliant)]

def ofValue? (v : Value) : Option Template := do
  let name ← v.required "name" (·.asString?)
  let language ← v.required "language" Language.ofValue?
  let category ← v.required "category" (·.asString?)
  let description ← v.withDefault "description" "" (·.asString?)
  let content ← v.required "content" (·.asString?)
  let parameters ← v.withDefault "variables" [] (·.asList? Variable.ofValue?)
  let requirements ← v.withDefault "requirements" [] (·.asStrings?)
  let compliant ← v.withDefault "compliant" false (·.asBool?)
  return { name, language, category, description, content, parameters, requirements, compliant }

/-- Required variables that the bindings lack, in the order of their declaration. -/
def missingVariables (t : Template) (bindings : Entries) : List String :=
  (t.parameters.filter fun v => v.required && !bindings.has v.name).map (·.name)

def servesIntent (t : Template) (primary : IntentCategory) : Bool :=
  t.category = Category.ofIntent primary

end Template

end Scriptwright
