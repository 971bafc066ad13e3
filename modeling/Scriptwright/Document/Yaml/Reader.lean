import Scriptwright.Document.Shape
import Scriptwright.Document.Yaml.Event
import Scriptwright.Document.Yaml.Scalar
import Scriptwright.Value.Codec

/-!
Values of expected shapes from YAML text. Where a text is expected any scalar will do, as it is
written; where a list or a record is expected, nothing at all counts as an empty one. An alias is
followed where its value is asked for, and only so often in one document; what is passed over may
hold any alias.
-/
namespace Scriptwright.Document

namespace Yaml

def localName? (tag : Option String) : Option String :=
  match tag.map (·.toList) with
  | some ['!'] => some "!"
  | some ('!' :: cs) => some (String.ofList cs)
  | _ => none

abbrev Counting := StateT Nat Option

namespace Content

/-- Where the node at a place is found, and whether that is elsewhere. -/
def enter (d : Content) (pos : Nat) : Counting (Nat × Bool) := do
  match d.events[pos]? with
  | some (.alias number) =>
    let followed := (← get) + 1
    set followed
    if 100 * d.events.size < followed then failure
    match d.places.lookup number with
    | some target => return (target, true)
    | none => failure
  | _ => return (pos, false)

/-- Reads a node in place or through an alias; what is read comes with the place behind it. -/
def through {α : Type} (d : Content) (read : Nat → Counting (α × Nat)) (pos : Nat) :
    Counting (α × Nat) := do
  let (target, away) ← d.enter pos
  let (a, stop) ← read target
  return (a, if away then pos + 1 else stop)

/-- The place behind a node; `nested` lists and mappings around it are open. -/
def skipNode (d : Content) (nested : Nat) : Nat → Nat → Option Nat
  | 0, _ => none
  | fuel + 1, pos =>
    match d.events[pos]? with
    | none => none
    | some (.listStart _) | some (.mappingStart _) => skipNode d (nested + 1) fuel (pos + 1)
    | some .listEnd | some .mappingEnd =>
      if nested ≤ 1 then some (pos + 1) else skipNode d (nested - 1) fuel (pos + 1)
    | some _ => if nested = 0 then some (pos + 1) else skipNode d nested fuel (pos + 1)

def skip (d : Content) (pos : Nat) : Counting Nat :=
  match d.skipNode 0 (d.events.size + 1) pos with
  | some stop => return stop
  | none => failure

def text (d : Content) : Nat → Counting (String × Nat) :=
  d.through fun pos =>
    match d.events[pos]? with
    | some (.scalar _ _ text) => return (text, pos + 1)
    | _ => failure

def items {α : Type} (d : Content) (read : Nat → Counting (α × Nat)) :
    Nat → Nat → Counting (List α × Nat)
  | 0, _ => failure
  | fuel + 1, pos =>
    match d.events[pos]? with
    | some .listEnd => return ([], pos + 1)
    | _ => do
      let (a, pos) ← read pos
      let (more, pos) ← items d read fuel pos
      return (a :: more, pos)

def entries {α : Type} (d : Content) (read : Nat → Counting (α × Nat)) :
    Nat → Nat → Counting (List (String × α) × Nat)
  | 0, _ => failure
  | fuel + 1, pos =>
    match d.events[pos]? with
    | some .mappingEnd => return ([], pos + 1)
    | _ => do
      let (key, pos) ← d.text pos
      let (a, pos) ← read pos
      let (more, pos) ← entries d read fuel pos
      return ((key, a) :: more, pos)

/-- The value of a scalar at a free place; a local tag has none. -/
def scalarValue? (style : Style) (tag : Option String) (text : String) : Option Value :=
  if (localName? tag).isSome then none
  else
    match tag with
    | some tag => taggedValue? tag text
    | none => if style = .plain then plainValue? text else some (.string text)

def freeScalar (d : Content) (pos : Nat) : Counting (Value × Nat) :=
  match d.events[pos]? with
  | some (.scalar style tag text) =>
    match scalarValue? style tag text with
    | some v => return (v, pos + 1)
    | none => failure
  | _ => failure

/-- A free value, nested at most so many levels deep; of a repeated key the last value counts. -/
def free (d : Content) : Nat → Nat → Counting (Value × Nat)
  | 0 => d.through d.freeScalar
  | room + 1 => d.through fun pos =>
    match d.events[pos]? with
    | some (.listStart tag) =>
      if (localName? tag).isSome then failure
      else do
        let (vs, pos) ← d.items (free d room) d.events.size (pos + 1)
        return (.array vs, pos)
    | some (.mappingStart tag) =>
      if (localName? tag).isSome then failure
      else do
        let (es, pos) ← d.entries (free d room) d.events.size (pos + 1)
        return (.object (Entries.setAll [] es), pos)
    | _ => d.freeScalar pos

/-- An empty plain scalar stands for an empty list, mapping or record. -/
def isBare (d : Content) (pos : Nat) : Bool :=
  match d.events[pos]? with
  | some (.scalar .plain _ text) => text.isEmpty
  | _ => false

def choice (d : Content) (pos : Nat) : Counting (Value × Nat) :=
  match d.events[pos]? with
  | some (.scalar style tag text) =>
    match localName? tag with
    | some name =>
      if style = .plain && (text.isEmpty || isNull text) then return (.string name, pos + 1)
      else failure
    | none => return (.string text, pos + 1)
  | _ => failure

def plainText (d : Content) (kind : String) (pos : Nat) : Counting String :=
  match d.events[pos]? with
  | some (.scalar .plain _ text) => return text
  | some (.scalar .literal tag text) => if tag = some (standardTag kind) then return text else failure
  | _ => failure

/-- Whether a field of no value stands at a place; a null tag in front of another text is an
error. -/
def isAbsent (d : Content) (pos : Nat) : Counting Bool :=
  match d.events[pos]? with
  | some (.scalar .plain (some tag) text) =>
    if tag = standardTag "null" then if isNull text then return true else failure
    else return false
  | some (.scalar .plain none text) => return text.isEmpty || isNull text
  | _ => return false

/-- The fields of a record: a field named twice is an error, and one of no value is left out. -/
def fields (d : Content) (read : Shape → Nat → Counting (Option Value × Nat)) (closed : Bool)
    (shapes : List (String × Shape)) (seen : List String) : Nat → Nat → Counting (Entries × Nat)
  | 0, _ => failure
  | fuel + 1, pos =>
    match d.events[pos]? with
    | some .mappingEnd => return ([], pos + 1)
    | _ => do
      let (key, pos) ← d.text pos
      match shapes.lookup key with
      | none =>
        if closed then failure
        let pos ← d.skip pos
        fields d read closed shapes seen fuel pos
      | some shape =>
        if seen.contains key then failure
        let (v, pos) ← read shape pos
        let (more, pos) ← fields d read closed shapes (key :: seen) fuel pos
        return (Entries.ofOption key id v ++ more, pos)

def record (d : Content) (read : Shape → Nat → Counting (Option Value × Nat)) (room : Nat)
    (closed : Bool) (shapes : List (String × Shape)) (pos : Nat) :
    Counting (Option Value × Nat) := do
  match d.events[pos]? with
  | some (.mappingStart _) =>
    if room = 0 then failure
    let (es, pos) ← d.fields read closed shapes [] d.events.size (pos + 1)
    return (some (.object es), pos)
  | _ => if d.isBare pos then return (some (.object []), pos + 1) else failure

/-- The value at a place of the given shape, or nothing where an optional one is absent; `depth`
bounds the nesting of the shape. -/
def shaped (d : Content) : Nat → Nat → Shape → Nat → Counting (Option Value × Nat)
  | 0, _, _, _ => failure
  | depth + 1, room, shape, pos =>
    d.through (fun pos =>
      let present : Value × Nat → Option Value × Nat := fun (v, pos) => (some v, pos)
      match shape with
      | .free => present <$> d.free room pos
      | .text => (fun (s, pos) => (some (.string s), pos)) <$> d.text pos
      | .choice => present <$> d.choice pos
      | .truth => do
        match truth? (← d.plainText "bool" pos) with
        | some b => return (some (.bool b), pos + 1)
        | none => failure
      | .natural => do
        match count? (← d.plainText "int" pos) with
        | some n => return (some (.nat n), pos + 1)
        | none => failure
      | .number => do
        match plainValue? (← d.plainText "float" pos) with
        | some v => return (some v, pos + 1)
        | none => failure
      | .optional shape => do
        if ← d.isAbsent pos then return (none, pos + 1) else shaped d depth room shape pos
      | .defaulted shape => shaped d depth room shape pos
      | .list item =>
        match d.events[pos]? with
        | some (.listStart _) => do
          if room = 0 then failure
          let (vs, pos) ← d.items (shaped d depth (room - 1) item) d.events.size (pos + 1)
          return (some (.array (vs.map (·.getD .null))), pos)
        | _ => if d.isBare pos then return (some (.array []), pos + 1) else failure
      | .entries =>
        match d.events[pos]? with
        | some (.mappingStart _) => do
          if room = 0 then failure
          let (es, pos) ← d.entries (d.free (room - 1)) d.events.size (pos + 1)
          return (some (.object (Entries.setAll [] es)), pos)
        | _ => if d.isBare pos then return (some (.object []), pos + 1) else failure
      | .entriesOf item =>
        match d.events[pos]? with
        | some (.mappingStart _) => do
          if room = 0 then failure
          let (es, pos) ← d.entries (shaped d depth (room - 1) item) d.events.size (pos + 1)
          return (some (.object (es.map fun (k, v) => (k, v.getD .null))), pos)
        | _ => if d.isBare pos then return (some (.object []), pos + 1) else failure
      | .record shapes => d.record (shaped d depth (room - 1)) room false shapes pos
      | .closedRecord shapes => d.record (shaped d depth (room - 1)) room true shapes pos) pos

end Content

end Yaml

def yamlRoom : Nat := 128

/-- The value of a YAML text at a place of the given shape; a text without a document is read as a
place where nothing is written. -/
def yaml? (shape : Shape) (text : String) : Option Value := do
  let d ← Yaml.document? text
  let ((v, _), _) ← (d.shaped 16 yamlRoom shape 0).run 0
  v

end Scriptwright.Document
