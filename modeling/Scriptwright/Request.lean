import Scriptwright.Language

/-!
What callers ask for.
-/
namespace Scriptwright

inductive IntegrationKind where
  | nemo
  | kdeConnect
  | vscode
  | system
deriving DecidableEq, Repr

namespace IntegrationKind

def all : List IntegrationKind := [.nemo, .kdeConnect, .vscode, .system]

def tag : IntegrationKind → String
  | .nemo => "nemo"
  | .kdeConnect => "kde-connect"
  | .vscode => "vscode"
  | .system => "system"

def ofTag? (s : String) : Option IntegrationKind := all.find? (·.tag = s)

theorem ofTag?_tag (k : IntegrationKind) : ofTag? k.tag = some k := by cases k <;> decide

def toValue (k : IntegrationKind) : Value := .string k.tag

def ofValue? (v : Value) : Option IntegrationKind := v.asTag? >>= ofTag?

end IntegrationKind

structure Integration where
  kind : IntegrationKind
  enabled : Bool := true
  config : Option Entries := none

namespace Integration

def shape : Shape :=
  .record [("type", .choice), ("enabled", .defaulted .truth),
    ("config", .defaulted (.optional .entries))]

def toValue (i : Integration) : Value :=
  .object ([("type", i.kind.toValue), ("enabled", .bool i.enabled)] ++
    Entries.ofOption "config" .object i.config)

def ofValue? (v : Value) : Option Integration := do
  let kind ← v.required "type" IntegrationKind.ofValue?
  let enabled ← v.withDefault "enabled" true (·.asBool?)
  let config ← v.optional "config" (·.asEntries?)
  return { kind, enabled, config }

def setting? (i : Integration) (key : String) : Option String :=
  (i.config.bind fun c => c.get? key) >>= Value.asString?

end Integration

structure GenerationRequest where
  description : String
  language : Option LanguagePreference := none
  integrations : List Integration := []
  includeTests : Bool := false
  includeDocumentation : Bool := false
  /-- Variables for the template, over all others. -/
  templateOverrides : Entries := []

namespace GenerationRequest

def shape : Shape :=
  .record [("description", .text), ("language", .defaulted (.optional .choice)),
    ("integrations", .defaulted (.list Integration.shape)), ("includeTests", .defaulted .truth),
    ("includeDocumentation", .defaulted .truth), ("templateOverrides", .defaulted .entries)]

def toValue (r : GenerationRequest) : Value :=
  .object ([("description", .string r.description)] ++
    Entries.ofOption "language" LanguagePreference.toValue r.language ++
    [("integrations", .array (r.integrations.map (·.toValue))),
      ("includeTests", .bool r.includeTests),
      ("includeDocumentation", .bool r.includeDocumentation),
      ("templateOverrides", .object r.templateOverrides)])

def ofValue? (v : Value) : Option GenerationRequest := do
  let description ← v.required "description" (·.asString?)
  let language ← v.optional "language" LanguagePreference.ofValue?
  let integrations ← v.withDefault "integrations" [] (·.asList? Integration.ofValue?)
  let includeTests ← v.withDefault "includeTests" false (·.asBool?)
  let includeDocumentation ← v.withDefault "includeDocumentation" false (·.asBool?)
  let templateOverrides ← v.withDefault "templateOverrides" [] (·.asEntries?)
  return { description, language, integrations, includeTests, includeDocumentation,
           templateOverrides }

def isEnabled (r : GenerationRequest) (kind : IntegrationKind) : Bool :=
  r.integrations.any fun i => i.kind = kind && i.enabled

end GenerationRequest

end Scriptwright
