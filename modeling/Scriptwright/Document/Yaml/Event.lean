import Scriptwright.Document.Yaml.Token

/-!
YAML documents as rows of events: scalars, aliases, and the starts and ends of lists and mappings.
A text holds at most one document. An anchor gets as its number how many names of anchors there are
before it, so that a name used again takes the number of the next new one, and the last place with
a number is what aliases with that number stand for.
-/
namespace Scriptwright.Document.Yaml

inductive Event where
  | alias (number : Nat)
  | scalar (style : Style) (tag : Option String) (text : String)
  | listStart (tag : Option String)
  | listEnd
  | mappingStart (tag : Option String)
  | mappingEnd
deriving Repr

instance : Inhabited Event := ⟨.listEnd⟩

def Event.empty : Event := .scalar .plain none ""

structure Content where
  events : Array Event
  places : List (Nat × Nat)

/-- Tokens still to be read, and the events found so far. -/
structure Reading where
  tokens : List Token
  shorthands : List (String × String) := []
  events : Array Event := #[]
  /-- Numbers of the names of anchors. -/
  anchors : List (String × Nat) := []
  places : List (Nat × Nat) := []

/-- The pairs with a value at a key, in place of an earlier one. -/
def placed {α β : Type} [BEq α] (key : α) (b : β) (pairs : List (α × β)) : List (α × β) :=
  (key, b) :: pairs.filter fun (k, _) => !(k == key)

namespace Reading

def next? (r : Reading) : Option Token := r.tokens.head?

def skip (r : Reading) : Reading := { r with tokens := r.tokens.drop 1 }

def emit (r : Reading) (e : Event) : Reading := { r with events := r.events.push e }

/-- Whether the next token is one of those given, or there is none. -/
def stopsAt (r : Reading) (stops : List Token) : Bool := r.next?.all stops.contains

def note (r : Reading) (anchor : Option String) : Reading :=
  match anchor with
  | none => r
  | some name =>
    let number := r.anchors.length
    { r with
      anchors := placed name number r.anchors
      places := placed number r.events.size r.places }

end Reading

/-- Anchor and tag in front of a node, each at most once. -/
structure Properties where
  anchor : Option String := none
  tag : Option TagText := none

def properties (r : Reading) : Properties × Reading :=
  match r.tokens with
  | .anchor a :: .tag t :: rest => (⟨some a, some t⟩, { r with tokens := rest })
  | .tag t :: .anchor a :: rest => (⟨some a, some t⟩, { r with tokens := rest })
  | .anchor a :: rest => (⟨some a, none⟩, { r with tokens := rest })
  | .tag t :: rest => (⟨none, some t⟩, { r with tokens := rest })
  | _ => ({}, r)

/-- The tag that is meant, or nothing where its handle is not known. -/
def Reading.tag? (r : Reading) : Option TagText → Option (Option String)
  | none => some none
  | some t => (t.expand? r.shorthands).map some

/-- Where a node stands: inside a block, inside a block whose lists need no indentation of their
own, or inside a flow collection. -/
inductive Setting where
  | block
  | blockOrList
  | flow
deriving DecidableEq, Repr

mutual

def node? : Nat → Setting → Reading → Option Reading
  | 0, _, _ => none
  | fuel + 1, setting, r =>
    match r.next? with
    | some (.alias name) => (r.anchors.lookup name).map fun n => r.skip.emit (.alias n)
    | _ => do
      let (props, r) := properties r
      let tag ← r.tag? props.tag
      let r := r.note props.anchor
      match r.next?, setting with
      | some .blockEntry, .blockOrList => looseItems? fuel (r.emit (.listStart tag))
      | some (.scalar style text), _ => some (r.skip.emit (.scalar style tag text))
      | some .flowSequence, _ => flowItems? fuel true (r.skip.emit (.listStart tag))
      | some .flowMapping, _ => flowEntries? fuel true (r.skip.emit (.mappingStart tag))
      | some .blockSequence, .block | some .blockSequence, .blockOrList =>
        blockItems? fuel (r.skip.emit (.listStart tag))
      | some .blockMapping, .block | some .blockMapping, .blockOrList =>
        blockEntries? fuel (r.skip.emit (.mappingStart tag))
      | _, _ =>
        if props.anchor.isSome || tag.isSome then some (r.emit (.scalar .plain tag "")) else none

/-- A node, or the empty one before one of the tokens `stops`. -/
def nodeOrEmpty? : Nat → Setting → List Token → Reading → Option Reading
  | 0, _, _, _ => none
  | fuel + 1, setting, stops, r =>
    if r.stopsAt stops then some (r.emit .empty) else node? fuel setting r

def blockItems? : Nat → Reading → Option Reading
  | 0, _ => none
  | fuel + 1, r =>
    match r.next? with
    | some .blockEntry => do
      let r ← nodeOrEmpty? fuel .block [.blockEntry, .blockEnd] r.skip
      blockItems? fuel r
    | some .blockEnd => some (r.skip.emit .listEnd)
    | _ => none

/-- Items of a list that is not indented against its key. -/
def looseItems? : Nat → Reading → Option Reading
  | 0, _ => none
  | fuel + 1, r =>
    match r.next? with
    | some .blockEntry => do
      let r ← nodeOrEmpty? fuel .block [.blockEntry, .key, .value, .blockEnd] r.skip
      looseItems? fuel r
    | _ => some (r.emit .listEnd)

def blockEntries? : Nat → Reading → Option Reading
  | 0, _ => none
  | fuel + 1, r =>
    match r.next? with
    | some .key => do
      let stops := [Token.key, .value, .blockEnd]
      let r ← nodeOrEmpty? fuel .blockOrList stops r.skip
      let r ← match r.next? with
        | some .value => nodeOrEmpty? fuel .blockOrList stops r.skip
        | _ => some (r.emit .empty)
      blockEntries? fuel r
    | some .blockEnd => some (r.skip.emit .mappingEnd)
    | _ => none

/-- The value of an entry of a flow collection that ends with `closing`. -/
def flowValue? : Nat → Token → Reading → Option Reading
  | 0, _, _ => none
  | fuel + 1, closing, r =>
    match r.next? with
    | some .value => nodeOrEmpty? fuel .flow [.flowEntry, closing] r.skip
    | _ => some (r.emit .empty)

/-- Items of a flow list; a key among them makes a mapping of one entry. -/
def flowItems? : Nat → Bool → Reading → Option Reading
  | 0, _, _ => none
  | fuel + 1, first, r =>
    match r.next?, first with
    | some .flowSequenceEnd, _ => some (r.skip.emit .listEnd)
    | some .flowEntry, false => flowItem? fuel r.skip
    | _, true => flowItem? fuel r
    | _, false => none

def flowItem? : Nat → Reading → Option Reading
  | 0, _ => none
  | fuel + 1, r =>
    match r.next? with
    | some .flowSequenceEnd => some (r.skip.emit .listEnd)
    | some .key => do
      let r := r.skip.emit (.mappingStart none)
      let r ←
        if r.stopsAt [.value, .flowEntry, .flowSequenceEnd] then some (r.skip.emit .empty)
        else node? fuel .flow r
      let r ← flowValue? fuel .flowSequenceEnd r
      flowItems? fuel false (r.emit .mappingEnd)
    | _ => do
      let r ← node? fuel .flow r
      flowItems? fuel false r

def flowEntries? : Nat → Bool → Reading → Option Reading
  | 0, _, _ => none
  | fuel + 1, first, r =>
    match r.next?, first with
    | some .flowMappingEnd, _ => some (r.skip.emit .mappingEnd)
    | some .flowEntry, false => flowEntry? fuel r.skip
    | _, true => flowEntry? fuel r
    | _, false => none

def flowEntry? : Nat → Reading → Option Reading
  | 0, _ => none
  | fuel + 1, r =>
    match r.next? with
    | some .flowMappingEnd => some (r.skip.emit .mappingEnd)
    | some .key => do
      let r ← nodeOrEmpty? fuel .flow [.value, .flowEntry, .flowMappingEnd] r.skip
      let r ← flowValue? fuel .flowMappingEnd r
      flowEntries? fuel false r
    | _ => do
      let r ← node? fuel .flow r
      flowEntries? fuel false (r.emit .empty)

end

def directives : List Token → List Directive × List Token
  | .directive d :: rest =>
    let (ds, rest) := directives rest
    (d :: ds, rest)
  | tokens => ([], tokens)

def endsContent : Token → Bool
  | .directive _ | .documentStart | .documentEnd => true
  | _ => false

/-- The document of a text; in a text of nothing it is an empty scalar. -/
def document? (text : String) : Option Content := do
  let tokens ← tokens? text
  let fuel := 4 * tokens.length + 8
  let (ds, rest) := directives tokens
  let shorthands ← shorthands? ds
  let r ← match rest with
    | [] => if ds.isEmpty then some (Reading.mk [] [] #[.empty] [] []) else none
    | .documentStart :: rest =>
      let r : Reading := { tokens := rest, shorthands }
      if rest.head?.all endsContent then some (r.emit .empty) else node? fuel .block r
    | _ => if ds.isEmpty then node? fuel .block { tokens } else none
  if r.tokens.all (· == .documentEnd) then return ⟨r.events, r.places⟩ else none

end Scriptwright.Document.Yaml
