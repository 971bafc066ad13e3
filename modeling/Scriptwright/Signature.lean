import Scriptwright.Language

/-!
The attribution block of every result, and the banner that carries it into scripts.
-/
namespace Scriptwright

def generatorName : String := "scrypgen"

def generatorVersion : String := "0.3.0"

structure Signature where
  generator : String
  version : String
  protocol : String
  marker : String
deriving DecidableEq, Repr

namespace Signature

def mark : String := "scrypgen-signature"

def current : Signature := ⟨generatorName, generatorVersion, "v1", mark⟩

def banner (s : Signature) : String :=
  "# " ++ s.marker ++ ": " ++ s.generator ++ " " ++ s.version ++ " (protocol " ++ s.protocol ++
    ")\n# Review generated code before running it."

def shape : Shape :=
  .record [("generator", .text), ("version", .text), ("protocol", .text), ("marker", .text)]

def toValue (s : Signature) : Value :=
  .object [("generator", .string s.generator), ("version", .string s.version),
    ("protocol", .string s.protocol), ("marker", .string s.marker)]

def ofValue? (v : Value) : Option Signature := do
  let generator ← v.required "generator" (·.asString?)
  let version ← v.required "version" (·.asString?)
  let protocol ← v.required "protocol" (·.asString?)
  let marker ← v.required "marker" (·.asString?)
  return ⟨generator, version, protocol, marker⟩

end Signature

end Scriptwright
