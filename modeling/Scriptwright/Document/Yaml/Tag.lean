import Scriptwright.Document.Yaml.Cursor

/-!
Tags and directives. A tag is a handle with a suffix, or stands whole in angle brackets; a
directive in front of a document says what a handle is short for.
-/
namespace Scriptwright.Document.Yaml

def isNameChar (c : Char) : Bool := c.isAlphanum || c = '_' || c = '-'

structure TagText where
  handle : String
  suffix : String
deriving DecidableEq, Repr

inductive Directive where
  | version (major minor : Nat)
  | shorthand (handle expansion : String)
deriving DecidableEq, Repr

def standardTag (name : String) : String := "tag:yaml.org,2002:" ++ name

def defaultShorthands : List (String × String) := [("!", "!"), ("!!", standardTag "")]

/-- The tag that is meant; a handle without an expansion is an error. -/
def TagText.expand? (shorthands : List (String × String)) (t : TagText) : Option String :=
  if t.handle.isEmpty then some t.suffix
  else ((shorthands ++ defaultShorthands).lookup t.handle).map (· ++ t.suffix)

def isTagChar (whole : Bool) (c : Char) : Bool :=
  isNameChar c || ";/?:@&=+$.!~*'()%".toList.contains c ||
    (whole && (c = ',' || c = '[' || c = ']'))

def escapedByte? : List Char → Option (UInt8 × List Char)
  | '%' :: a :: b :: rest => do
    let a ← hexDigit? a
    let b ← hexDigit? b
    return ((a * 16 + b).toUInt8, rest)
  | _ => none

def moreBytes? : Nat → List Char → Option (List UInt8 × List Char)
  | 0, cs => some ([], cs)
  | n + 1, cs => do
    let (b, cs) ← escapedByte? cs
    if b &&& 0xC0 != 0x80 then none
    let (bs, cs) ← moreBytes? n cs
    return (b :: bs, cs)

def escapedBytes? (cs : List Char) : Option (List UInt8 × List Char) := do
  let (b, cs) ← escapedByte? cs
  let more ←
    if b &&& 0x80 = 0 then some 0
    else if b &&& 0xE0 = 0xC0 then some 1
    else if b &&& 0xF0 = 0xE0 then some 2
    else if b &&& 0xF8 = 0xF0 then some 3
    else none
  let (bs, cs) ← moreBytes? more cs
  return (b :: bs, cs)

def tagBytes? (whole : Bool) : Nat → List Char → Option (List UInt8 × List Char)
  | 0, _ => none
  | fuel + 1, cs =>
    match cs with
    | [] => some ([], [])
    | c :: rest =>
      if !isTagChar whole c then some ([], cs)
      else if c = '%' then do
        let (bs, rest) ← escapedBytes? cs
        let (more, rest) ← tagBytes? whole fuel rest
        return (bs ++ more, rest)
      else do
        let (more, rest) ← tagBytes? whole fuel rest
        return (String.utf8EncodeChar c ++ more, rest)

/-- Tag characters at a place, behind `opening`. Bytes that are no text make a tag that means
nothing. -/
def tagPart? (whole : Bool) (opening : String) (p : Cursor) : Option (String × Cursor) := do
  let (bytes, rest) ← tagBytes? whole (p.rest.length + 1) p.rest
  let text := match String.fromUTF8? ⟨bytes.toArray⟩ with
    | some s => opening ++ s
    | none => "\uFFFD"
  return (text, p.skipMany (p.rest.length - rest.length))

/-- An exclamation mark, name characters, and perhaps another exclamation mark. -/
def handle (p : Cursor) : String × Cursor :=
  let (name, q) := p.skip.takeWhile isNameChar
  match q.rest with
  | '!' :: _ => (String.ofList ('!' :: name ++ ['!']), q.skip)
  | _ => (String.ofList ('!' :: name), q)

def tagText? (p : Cursor) : Option (TagText × Cursor) := do
  match p.rest with
  | '!' :: '<' :: _ =>
    let (text, q) ← tagPart? true "" (p.skipMany 2)
    match text, q.rest with
    | "", _ => none
    | text, '>' :: _ => return (⟨"", text⟩, q.skip)
    | _, _ => none
  | _ =>
    let (h, q) := handle p
    if h.length > 1 ∧ h.back = '!' then
      let (suffix, q) ← tagPart? false "" q
      if suffix.isEmpty then none else return (⟨h, suffix⟩, q)
    else
      let (suffix, q) ← tagPart? false (String.ofList (h.toList.drop 1)) q
      return (if suffix.isEmpty then ⟨"", "!"⟩ else ⟨"!", suffix⟩, q)

def versionNumber? (p : Cursor) : Option (Nat × Cursor) :=
  match p.takeWhile Char.isDigit with
  | ([], _) => none
  | (ds, q) =>
    if 9 < ds.length then none
    else some (ds.foldl (fun n c => n * 10 + (c.toNat - '0'.toNat)) 0, q)

def version? (p : Cursor) : Option (Directive × Cursor) := do
  let (major, p) ← versionNumber? (p.dropWhile isSpace)
  match p.rest with
  | '.' :: _ =>
    let (minor, p) ← versionNumber? p.skip
    return (.version major minor, p)
  | _ => none

def shorthand? (p : Cursor) : Option (Directive × Cursor) := do
  let p := p.dropWhile isSpace
  if p.rest.head? ≠ some '!' then none
  let (h, p) := handle p
  if h ≠ "!" ∧ h.back ≠ '!' then none
  if !p.rest.head?.any isSpace then none
  let (expansion, p) ← tagPart? true "" (p.dropWhile isSpace)
  if expansion.isEmpty || !gapComes p.rest then none
  return (.shorthand h expansion, p)

def directive? (p : Cursor) : Option (Directive × Cursor) := do
  let (name, q) := p.skip.takeWhile isNameChar
  if !gapComes q.rest then none
  let (d, q) ← match String.ofList name with
    | "YAML" => version? q
    | "TAG" => shorthand? q
    | _ => none
  let q := q.dropWhile isSpace
  let q := if q.rest.head? = some '#' then q.restOfLine.2 else q
  match q.rest with
  | [] => return (d, q)
  | c :: _ => if isBreak c then return (d, q.lineEnd.2) else none

/-- The shorthands of some directives. A version is named once, a handle is explained once, and the
version is one of two. -/
def shorthands? : List Directive → Option (List (String × String))
  | [] => some []
  | .version major minor :: rest =>
    if major ≠ 1 ∨ (minor ≠ 1 ∧ minor ≠ 2) ∨ rest.any (fun
      | .version _ _ => true
      | _ => false) then none
    else shorthands? rest
  | .shorthand h expansion :: rest => do
    let more ← shorthands? rest
    if (more.lookup h).isSome then none else return (h, expansion) :: more

end Scriptwright.Document.Yaml
