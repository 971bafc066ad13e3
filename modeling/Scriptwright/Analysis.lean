import Scriptwright.Entity
import Scriptwright.Intent

/-!
The result of analysing a description.
-/
namespace Scriptwright

inductive Complexity where
  | simple
  | medium
  | complex
deriving DecidableEq, Repr

namespace Complexity

def all : List Complexity := [.simple, .medium, .complex]

def tag : Complexity → String
  | .simple => "simple"
  | .medium => "medium"
  | .complex => "complex"

def ofTag? (s : String) : Option Complexity := all.find? (·.tag = s)

theorem ofTag?_tag (c : Complexity) : ofTag? c.tag = some c := by cases c <;> decide

def toValue (c : Complexity) : Value := .string c.tag

def ofValue? (v : Value) : Option Complexity := v.asTag? >>= ofTag?

end Complexity

structure Requirements where
  inputFiles : List String := []
  outputFiles : List String := []
  libraries : List String := []
  systemCommands : List String := []
  networkAccess : Bool := false
  fileSystemAccess : Bool := false
  guiRequired : Bool := false
  webRequired : Bool := false
  databaseRequired : Bool := false
  errorHandling : Bool := false
deriving DecidableEq, Repr

namespace Requirements

def shape : Shape :=
  .record [("inputFiles", .list .text), ("outputFiles", .list .text), ("libraries", .list .text),
    ("systemCommands", .list .text), ("networkAccess", .truth), ("fileSystemAccess", .truth),
    ("guiRequired", .truth), ("webRequired", .truth), ("databaseRequired", .truth),
    ("errorHandling", .truth)]

def toValue (r : Requirements) : Value :=
  .object [("inputFiles", .strings r.inputFiles), ("outputFiles", .strings r.outputFiles),
    ("libraries", .strings r.libraries), ("systemCommands", .strings r.systemCommands),
    ("networkAccess", .bool r.networkAccess), ("fileSystemAccess", .bool r.fileSystemAccess),
    ("guiRequired", .bool r.guiRequired), ("webRequired", .bool r.webRequired),
    ("databaseRequired", .bool r.databaseRequired), ("errorHandling", .bool r.errorHandling)]

def ofValue? (v : Value) : Option Requirements := do
  let inputFiles ← v.required "inputFiles" (·.asStrings?)
  let outputFiles ← v.required "outputFiles" (·.asStrings?)
  let libraries ← v.required "libraries" (·.asStrings?)
  let systemCommands ← v.required "systemCommands" (·.asStrings?)
  let networkAccess ← v.required "networkAccess" (·.asBool?)
  let fileSystemAccess ← v.required "fileSystemAccess" (·.asBool?)
  let guiRequired ← v.required "guiRequired" (·.asBool?)
  let webRequired ← v.required "webRequired" (·.asBool?)
  let databaseRequired ← v.required "databaseRequired" (·.asBool?)
  let errorHandling ← v.required "errorHandling" (·.asBool?)
  return { inputFiles, outputFiles, libraries, systemCommands, networkAccess, fileSystemAccess,
           guiRequired, webRequired, databaseRequired, errorHandling }

end Requirements

structure Analysis where
  intent : Intent
  entities : List Entity
  complexity : Complexity
  confidence : Float
  suggestedLanguage : Language
  requirements : Requirements

namespace Analysis

def shape : Shape :=
  .record [("intent", Intent.shape), ("entities", .list Entity.shape), ("complexity", .choice),
    ("confidence", .number), ("suggestedLanguage", .choice), ("requirements", Requirements.shape)]

def toValue (a : Analysis) : Value :=
  .object [("intent", a.intent.toValue), ("entities", .array (a.entities.map (·.toValue))),
    ("complexity", a.complexity.toValue), ("confidence", .float a.confidence),
    ("suggestedLanguage", a.suggestedLanguage.toValue), ("requirements", a.requirements.toValue)]

def ofValue? (v : Value) : Option Analysis := do
  let intent ← v.required "intent" Intent.ofValue?
  let entities ← v.required "entities" (·.asList? Entity.ofValue?)
  let complexity ← v.required "complexity" Complexity.ofValue?
  let confidence ← v.required "confidence" (·.asFloat?)
  let suggestedLanguage ← v.required "suggestedLanguage" Language.ofValue?
  let requirements ← v.required "requirements" Requirements.ofValue?
  return ⟨intent, entities, complexity, confidence, suggestedLanguage, requirements⟩

end Analysis

end Scriptwright
