import Scriptwright.Document.Number
import Scriptwright.Document.Shape
import Scriptwright.Value.Codec

/-!
JSON text. Reading has two steps: the text becomes a tree that still shows repeated keys, texts
with lone surrogates and numbers beyond the largest float; then the tree becomes a value of an
expected shape, in which each of these is refused where it is looked at. Parts that the shape
passes over are only required to be well formed.
-/
namespace Scriptwright.Document

inductive JsonTree where
  | null
  | bool (value : Bool)
  | number (value : Option Number)
  | text (value : Option String)
  | list (items : List JsonTree)
  | object (entries : List (Option String × JsonTree))

instance : Inhabited JsonTree := ⟨.null⟩

def isJsonBlank (c : Char) : Bool := c = ' ' || c = '\n' || c = '\t' || c = '\r'

def skipBlank (cs : List Char) : List Char := cs.dropWhile isJsonBlank

def hexValue? (c : Char) : Option Nat :=
  if '0' ≤ c ∧ c ≤ '9' then some (c.toNat - '0'.toNat)
  else if 'a' ≤ c ∧ c ≤ 'f' then some (c.toNat - 'a'.toNat + 10)
  else if 'A' ≤ c ∧ c ≤ 'F' then some (c.toNat - 'A'.toNat + 10)
  else none

def hexUnit? : List Char → Option (Nat × List Char)
  | a :: b :: c :: d :: rest => do
    let a ← hexValue? a
    let b ← hexValue? b
    let c ← hexValue? c
    let d ← hexValue? d
    return (((a * 16 + b) * 16 + c) * 16 + d, rest)
  | _ => none

def isHighSurrogate (n : Nat) : Bool := 0xD800 ≤ n && n < 0xDC00

def isLowSurrogate (n : Nat) : Bool := 0xDC00 ≤ n && n < 0xE000

/-- The escape behind a backslash: its character, or `none` for a surrogate without its partner. -/
def escape? : List Char → Option (Option Char × List Char)
  | '"' :: rest => some (some '"', rest)
  | '\\' :: rest => some (some '\\', rest)
  | '/' :: rest => some (some '/', rest)
  | 'b' :: rest => some (some '\x08', rest)
  | 'f' :: rest => some (some '\x0c', rest)
  | 'n' :: rest => some (some '\n', rest)
  | 'r' :: rest => some (some '\r', rest)
  | 't' :: rest => some (some '\t', rest)
  | 'u' :: rest => do
    let (high, rest) ← hexUnit? rest
    if isHighSurrogate high then
      match rest with
      | '\\' :: 'u' :: more =>
        match hexUnit? more with
        | some (low, more) =>
          if isLowSurrogate low then
            return (some (Char.ofNat (0x10000 + (high - 0xD800) * 0x400 + (low - 0xDC00))), more)
          else return (none, rest)
        | none => return (none, rest)
      | _ => return (none, rest)
    else if isLowSurrogate high then return (none, rest)
    else return (some (Char.ofNat high), rest)
  | _ => none

/-- The rest of a string behind its opening quote; `done` holds its characters reversed. -/
def stringBody (done : List Char) (sound : Bool) : Nat → List Char →
    Option (Option String × List Char)
  | 0, _ => none
  | _ + 1, [] => none
  | fuel + 1, c :: cs =>
    if c = '"' then some (if sound then some (String.ofList done.reverse) else none, cs)
    else if c = '\\' then
      match escape? cs with
      | some (some e, rest) => stringBody (e :: done) sound fuel rest
      | some (none, rest) => stringBody done false fuel rest
      | none => none
    else if c.toNat < 0x20 then none
    else stringBody (c :: done) sound fuel cs

def string? (cs : List Char) : Option (Option String × List Char) :=
  stringBody [] true (cs.length + 1) cs

def digitsOf (cs : List Char) : List Nat × List Char :=
  let (ds, rest) := cs.span Char.isDigit
  (ds.map fun c => c.toNat - '0'.toNat, rest)

def someDigits? (cs : List Char) : Option (List Nat × List Char) :=
  match digitsOf cs with
  | ([], _) => none
  | found => some found

def wholePart? (cs : List Char) : Option (List Nat × List Char) :=
  match digitsOf cs with
  | ([], _) => none
  | (0 :: _ :: _, _) => none
  | found => some found

def fractionPart? : List Char → Option (Option (List Nat) × List Char)
  | '.' :: rest => (someDigits? rest).map fun (ds, rest) => (some ds, rest)
  | cs => some (none, cs)

def exponentPart? : List Char → Option (Option (Bool × List Nat) × List Char)
  | c :: rest =>
    if c = 'e' ∨ c = 'E' then
      match rest with
      | '+' :: rest => (someDigits? rest).map fun (ds, rest) => (some (false, ds), rest)
      | '-' :: rest => (someDigits? rest).map fun (ds, rest) => (some (true, ds), rest)
      | rest => (someDigits? rest).map fun (ds, rest) => (some (false, ds), rest)
    else some (none, c :: rest)
  | [] => some (none, [])

def number? (cs : List Char) : Option (NumberText × List Char) := do
  let (negative, cs) := match cs with
    | '-' :: rest => (true, rest)
    | cs => (false, cs)
  let (whole, cs) ← wholePart? cs
  let (fraction, cs) ← fractionPart? cs
  let (exponent, cs) ← exponentPart? cs
  return (⟨negative, whole, fraction, exponent⟩, cs)

def keyword? (word : String) (cs : List Char) : Option (List Char) :=
  let w := word.toList
  if w.isPrefixOf cs then some (cs.drop w.length) else none

mutual

/-- One value; blanks in front of it have been skipped. -/
def tree? : Nat → List Char → Option (JsonTree × List Char)
  | 0, _ => none
  | fuel + 1, cs =>
    match cs with
    | '\x7b' :: rest =>
      match skipBlank rest with
      | '\x7d' :: rest => some (.object [], rest)
      | rest => members? fuel [] rest
    | '[' :: rest =>
      match skipBlank rest with
      | ']' :: rest => some (.list [], rest)
      | rest => items? fuel [] rest
    | '"' :: rest => (string? rest).map fun (s, rest) => (.text s, rest)
    | 'n' :: _ => (keyword? "null" cs).map fun rest => (.null, rest)
    | 't' :: _ => (keyword? "true" cs).map fun rest => (.bool true, rest)
    | 'f' :: _ => (keyword? "false" cs).map fun rest => (.bool false, rest)
    | _ => (number? cs).map fun (t, rest) => (.number t.number?, rest)

/-- Items up to the closing bracket, behind those in `done` (reversed). -/
def items? : Nat → List JsonTree → List Char → Option (JsonTree × List Char)
  | 0, _, _ => none
  | fuel + 1, done, cs =>
    match tree? fuel cs with
    | none => none
    | some (item, rest) =>
      match skipBlank rest with
      | ',' :: rest => items? fuel (item :: done) (skipBlank rest)
      | ']' :: rest => some (.list (item :: done).reverse, rest)
      | _ => none

/-- Members up to the closing brace, behind those in `done` (reversed). -/
def members? : Nat → List (Option String × JsonTree) → List Char →
    Option (JsonTree × List Char)
  | 0, _, _ => none
  | fuel + 1, done, cs =>
    match cs with
    | '"' :: rest =>
      match string? rest with
      | none => none
      | some (key, rest) =>
        match skipBlank rest with
        | ':' :: rest =>
          match tree? fuel (skipBlank rest) with
          | none => none
          | some (value, rest) =>
            match skipBlank rest with
            | ',' :: rest => members? fuel ((key, value) :: done) (skipBlank rest)
            | '\x7d' :: rest => some (.object ((key, value) :: done).reverse, rest)
            | _ => none
        | _ => none
    | _ => none

end

/-- A whole text: one value with nothing but blanks around it. -/
def JsonTree.read? (cs : List Char) : Option JsonTree :=
  match tree? (2 * cs.length + 2) (skipBlank cs) with
  | some (t, rest) => if (skipBlank rest).isEmpty then some t else none
  | none => none

mutual

/-- A free value, nested at most `room` levels deep; of a repeated key the last value counts. -/
def JsonTree.value? (room : Nat) : JsonTree → Option Value
  | .null => some .null
  | .bool b => some (.bool b)
  | .number n => n.map .number
  | .text s => s.map .string
  | .list items => if room = 0 then none else (valueItems? (room - 1) items).map .array
  | .object entries =>
    if room = 0 then none else (valueEntries? (room - 1) [] entries).map .object

def valueItems? (room : Nat) : List JsonTree → Option (List Value)
  | [] => some []
  | t :: ts => do
    let v ← t.value? room
    let vs ← valueItems? room ts
    return v :: vs

def valueEntries? (room : Nat) (done : Entries) : List (Option String × JsonTree) → Option Entries
  | [] => some done
  | (none, _) :: _ => none
  | (some k, t) :: rest => do
    let v ← t.value? room
    valueEntries? room (done.set k v) rest

end

/-- The fields of a record written as an object: a field named twice is an error, and one of no
value is left out. -/
def namedFields (shapes : List (String × Shape)) (convert : Shape → JsonTree → Option (Option Value))
    (closed : Bool) (seen : List String) : List (Option String × JsonTree) → Option Entries
  | [] => some []
  | (none, _) :: _ => none
  | (some k, t) :: rest =>
    match shapes.lookup k with
    | none => if closed then none else namedFields shapes convert closed seen rest
    | some shape => do
      if seen.contains k then none
      let v ← convert shape t
      let more ← namedFields shapes convert closed (k :: seen) rest
      return Entries.ofOption k id v ++ more

/-- The fields of a record written as a list, in the order of their declaration; those with a
default may be left out at the end. -/
def listedFields (convert : Shape → JsonTree → Option (Option Value)) :
    List (String × Shape) → List JsonTree → Option Entries
  | shapes, [] => if shapes.all fun (_, shape) => shape.isDefaulted then some [] else none
  | [], _ :: _ => none
  | (k, shape) :: shapes, t :: ts => do
    let v ← convert shape t
    let more ← listedFields convert shapes ts
    return Entries.ofOption k id v ++ more

def convertAll (convert : JsonTree → Option (Option Value)) : List JsonTree → Option (List Value)
  | [] => some []
  | t :: ts => do
    let v ← convert t
    let vs ← convertAll convert ts
    return v.getD .null :: vs

def keyedEntries (convert : JsonTree → Option (Option Value)) :
    List (Option String × JsonTree) → Option Entries
  | [] => some []
  | (none, _) :: _ => none
  | (some k, t) :: rest => do
    let v ← convert t
    let more ← keyedEntries convert rest
    return (k, v.getD .null) :: more

/-- The value of a tree at a place of the given shape, or nothing where an optional one is null;
`depth` bounds the nesting of the shape. -/
def JsonTree.shaped? : Nat → Nat → Shape → JsonTree → Option (Option Value)
  | 0, _, _, _ => none
  | depth + 1, room, shape, t =>
    match shape, t with
    | .optional _, .null => some none
    | .optional shape, t | .defaulted shape, t => shaped? depth room shape t
    | .choice, .object [(some name, .null)] => if room = 0 then none else some (some (.string name))
    | .choice, .object _ => none
    | .list item, .list ts =>
      if room = 0 then none
      else (convertAll (shaped? depth (room - 1) item) ts).map fun vs => some (.array vs)
    | .entriesOf item, .object es =>
      if room = 0 then none
      else (keyedEntries (shaped? depth (room - 1) item) es).map fun es => some (.object es)
    | .record shapes, .object es =>
      if room = 0 then none
      else (namedFields shapes (shaped? depth (room - 1)) false [] es).map fun es => some (.object es)
    | .closedRecord shapes, .object es =>
      if room = 0 then none
      else (namedFields shapes (shaped? depth (room - 1)) true [] es).map fun es => some (.object es)
    | .record shapes, .list ts | .closedRecord shapes, .list ts =>
      if room = 0 then none
      else (listedFields (shaped? depth (room - 1)) shapes ts).map fun es => some (.object es)
    | _, t => (t.value? room).map some

def jsonRoom : Nat := 127

def JsonTree.shapedAt? (shape : Shape) (t : JsonTree) : Option Value :=
  (t.shaped? 16 jsonRoom shape).map (·.getD .null)

def json? (shape : Shape) (text : String) : Option Value := do
  let t ← JsonTree.read? text.toList
  t.shapedAt? shape

end Scriptwright.Document
