import Scriptwright.Analysis
import Scriptwright.GenerationError
import Scriptwright.Moment
import Scriptwright.Signature

/-!
What callers get: a script with what is known about it, or the reason why there is none.
-/
namespace Scriptwright

structure Metadata where
  templateUsed : String
  generatedAt : String
  requirements : Requirements
  estimatedComplexity : Complexity
  dependencies : List String
  permissions : List String
  platform : List String
  signature : Signature
deriving DecidableEq, Repr

namespace Metadata

def shape : Shape :=
  .record [("templateUsed", .text), ("generatedAt", .text), ("requirements", Requirements.shape),
    ("estimatedComplexity", .choice), ("dependencies", .list .text), ("permissions", .list .text),
    ("platform", .list .text), ("signature", Signature.shape)]

def toValue (m : Metadata) : Value :=
  .object [("templateUsed", .string m.templateUsed), ("generatedAt", .string m.generatedAt),
    ("requirements", m.requirements.toValue),
    ("estimatedComplexity", m.estimatedComplexity.toValue),
    ("dependencies", .strings m.dependencies), ("permissions", .strings m.permissions),
    ("platform", .strings m.platform), ("signature", m.signature.toValue)]

def ofValue? (v : Value) : Option Metadata := do
  let templateUsed ← v.required "templateUsed" (·.asString?)
  let generatedAt ← v.required "generatedAt" (·.asString?)
  let requirements ← v.required "requirements" Requirements.ofValue?
  let estimatedComplexity ← v.required "estimatedComplexity" Complexity.ofValue?
  let dependencies ← v.required "dependencies" (·.asStrings?)
  let permissions ← v.required "permissions" (·.asStrings?)
  let platform ← v.required "platform" (·.asStrings?)
  let signature ← v.required "signature" Signature.ofValue?
  return { templateUsed, generatedAt, requirements, estimatedComplexity, dependencies, permissions,
           platform, signature }

end Metadata

/-- A file that goes with a script: for a desktop integration, its tests or its documentation. -/
structure CompanionFile where
  kind : String
  filename : String
  content : String
  /-- Where it belongs; a tilde at the start stands for the home directory. -/
  path : String
  executable : Bool := false
deriving DecidableEq, Repr

namespace CompanionFile

def shape : Shape :=
  .record [("type", .text), ("filename", .text), ("content", .text), ("path", .text),
    ("executable", .defaulted .truth)]

def toValue (f : CompanionFile) : Value :=
  .object ([("type", .string f.kind), ("filename", .string f.filename),
    ("content", .string f.content), ("path", .string f.path)] ++
    if f.executable then [("executable", .bool true)] else [])

def ofValue? (v : Value) : Option CompanionFile := do
  let kind ← v.required "type" (·.asString?)
  let filename ← v.required "filename" (·.asString?)
  let content ← v.required "content" (·.asString?)
  let path ← v.required "path" (·.asString?)
  let executable ← v.withDefault "executable" false (·.asBool?)
  return { kind, filename, content, path, executable }

end CompanionFile

structure GenerationResult where
  success : Bool
  code : String
  language : Language
  metadata : Metadata
  errors : List String
  warnings : List String
  suggestions : List String
  companions : List CompanionFile
deriving DecidableEq, Repr

namespace GenerationResult

def shape : Shape :=
  .record [("success", .truth), ("code", .text), ("language", .choice),
    ("metadata", Metadata.shape), ("errors", .list .text), ("warnings", .list .text),
    ("suggestions", .list .text), ("integrationFiles", .defaulted (.list CompanionFile.shape))]

def toValue (r : GenerationResult) : Value :=
  .object ([("success", .bool r.success), ("code", .string r.code),
    ("language", r.language.toValue), ("metadata", r.metadata.toValue),
    ("errors", .strings r.errors), ("warnings", .strings r.warnings),
    ("suggestions", .strings r.suggestions)] ++
    if r.companions.isEmpty then []
    else [("integrationFiles", .array (r.companions.map (·.toValue)))])

def ofValue? (v : Value) : Option GenerationResult := do
  let success ← v.required "success" (·.asBool?)
  let code ← v.required "code" (·.asString?)
  let language ← v.required "language" Language.ofValue?
  let metadata ← v.required "metadata" Metadata.ofValue?
  let errors ← v.required "errors" (·.asStrings?)
  let warnings ← v.required "warnings" (·.asStrings?)
  let suggestions ← v.required "suggestions" (·.asStrings?)
  let companions ← v.withDefault "integrationFiles" [] (·.asList? CompanionFile.ofValue?)
  return { success, code, language, metadata, errors, warnings, suggestions, companions }

def failure (now : Moment) (e : GenerationError) : GenerationResult where
  success := false
  code := ""
  language := .bash
  metadata :=
    { templateUsed := "error"
      generatedAt := now.exact
      requirements := {}
      estimatedComplexity := .simple
      dependencies := []
      permissions := []
      platform := []
      signature := .current }
  errors := ["Generation failed: " ++ e.message]
  warnings := []
  suggestions := [e.suggestion]
  companions := []

end GenerationResult

structure BatchReport where
  results : List GenerationResult
  successful : Nat
  failed : Nat
deriving DecidableEq, Repr

namespace BatchReport

def ofResults (results : List GenerationResult) : BatchReport :=
  let successful := results.countP (·.success)
  ⟨results, successful, results.length - successful⟩

def toValue (r : BatchReport) : Value :=
  .object [("results", .array (r.results.map (·.toValue))), ("successful", .nat r.successful),
    ("failed", .nat r.failed)]

end BatchReport

end Scriptwright
