import Scriptwright.Language

/-!
Labelled spans of a normalized description.
-/
namespace Scriptwright

inductive EntityLabel where
  | file
  | url
  | command
  | path
deriving DecidableEq, Repr

namespace EntityLabel

def all : List EntityLabel := [.file, .url, .command, .path]

def tag : EntityLabel → String
  | .file => "FILE"
  | .url => "URL"
  | .command => "COMMAND"
  | .path => "PATH"

def ofTag? (s : String) : Option EntityLabel := all.find? (·.tag = s)

theorem ofTag?_tag (l : EntityLabel) : ofTag? l.tag = some l := by cases l <;> decide

/-- How sure a find with this label is. -/
def confidence : EntityLabel → Float
  | .file => 0.9
  | .url => 0.95
  | .command => 0.85
  | .path => 0.8

def toValue (l : EntityLabel) : Value := .string l.tag

def ofValue? (v : Value) : Option EntityLabel := v.asTag? >>= ofTag?

end EntityLabel

/-- A span of bytes from `start` up to `stop`. -/
structure Entity where
  text : String
  label : EntityLabel
  start : Nat
  stop : Nat
  confidence : Float

namespace Entity

def shape : Shape :=
  .record [("text", .text), ("label", .choice), ("start", .natural), ("end", .natural),
    ("confidence", .number)]

def toValue (e : Entity) : Value :=
  .object [("text", .string e.text), ("label", e.label.toValue), ("start", .nat e.start),
    ("end", .nat e.stop), ("confidence", .float e.confidence)]

def ofValue? (v : Value) : Option Entity := do
  let text ← v.required "text" (·.asString?)
  let label ← v.required "label" EntityLabel.ofValue?
  let start ← v.required "start" (·.asNat?)
  let stop ← v.required "end" (·.asNat?)
  let confidence ← v.required "confidence" (·.asFloat?)
  return ⟨text, label, start, stop, confidence⟩

end Entity

end Scriptwright
