import Scriptwright.Document.Yaml.ScalarText
import Scriptwright.Document.Yaml.Tag

/-!
Tokens of YAML text: what the layout of lines and the indicator characters say, before it is known
how the pieces nest. Indentation shows as tokens that open and close blocks. A scalar turns out to
be a key only when a colon follows it, so the place of every scalar that may be one is remembered,
and the tokens that make it a key are put in front of it then.
-/
namespace Scriptwright.Document.Yaml

inductive Style where
  | plain
  | quoted
  | literal
  | folded
deriving DecidableEq, Repr

inductive Token where
  | directive (content : Directive)
  | documentStart
  | documentEnd
  | blockSequence
  | blockMapping
  | blockEnd
  | flowSequence
  | flowSequenceEnd
  | flowMapping
  | flowMappingEnd
  | blockEntry
  | flowEntry
  | key
  | value
  | alias (name : String)
  | anchor (name : String)
  | tag (text : TagText)
  | scalar (style : Style) (text : String)
deriving DecidableEq, Repr

/-- The place of a token that a colon may turn into a key. A required key is one that stands where
the keys of the current block stand. -/
structure KeyPlace where
  number : Nat
  line : Nat
  column : Nat
  index : Nat
  required : Bool

/-- A scan in progress: the tokens found so far (the last one first), the open indentations, and
for every level of flow collections the place that may turn into a key. -/
structure Scan where
  cursor : Cursor
  tokens : List Token := []
  count : Nat := 0
  indent : Int := -1
  indents : List Int := []
  flowLevel : Nat := 0
  keys : List (Option KeyPlace) := [none]
  keyAllowed : Bool := true

namespace Scan

def push (s : Scan) (t : Token) : Scan := { s with tokens := t :: s.tokens, count := s.count + 1 }

def insert (s : Scan) (number : Nat) (t : Token) : Scan :=
  { s with tokens := s.tokens.insertIdx (s.count - number) t, count := s.count + 1 }

def allowKey (s : Scan) (allowed : Bool) : Scan := { s with keyAllowed := allowed }

def goTo (s : Scan) (p : Cursor) : Scan := { s with cursor := p }

/-- Closes the blocks that are indented deeper than `column`. -/
def closeBlocks (s : Scan) (column : Int) : Scan :=
  if s.flowLevel ≠ 0 then s else close s.indents.length s
where
  close : Nat → Scan → Scan
    | 0, s => s
    | n + 1, s =>
      match s.indents with
      | outer :: more =>
        if column < s.indent then
          close n ({ s with indent := outer, indents := more }.push .blockEnd)
        else s
      | [] => s

def openBlock (s : Scan) (column : Nat) (number : Nat) (t : Token) : Scan :=
  if s.flowLevel = 0 ∧ s.indent < column then
    { s with indent := column, indents := s.indent :: s.indents }.insert number t
  else s

/-- Gives up the place of a possible key; `none` if the key is required. -/
def dropKey (s : Scan) : Option Scan :=
  match s.keys with
  | some k :: more => if k.required then none else some { s with keys := none :: more }
  | _ => some s

def noteKey (s : Scan) : Option Scan :=
  if !s.keyAllowed then some s
  else do
    let s ← s.dropKey
    let p := s.cursor
    let required := s.flowLevel = 0 ∧ s.indent = p.column
    return { s with keys := some ⟨s.count, p.line, p.column, p.index, required⟩ :: s.keys.drop 1 }

/-- A key has to be followed by its colon on the same line, within 1024 characters. -/
def dropStaleKeys (s : Scan) : Option Scan := do
  let keys ← s.keys.mapM fun
    | some k =>
      if k.line < s.cursor.line ∨ k.index + 1024 < s.cursor.index then
        if k.required then none else some none
      else some (some k)
    | none => some none
  return { s with keys }

def skipGap : Nat → Scan → Scan
  | 0, s => s
  | fuel + 1, s =>
    let tabs := s.flowLevel ≠ 0 || !s.keyAllowed
    let p := if s.cursor.index = 0 && s.cursor.rest.head? = some '\uFEFF' then s.cursor.skip
      else s.cursor
    let p := p.dropWhile fun c => c = ' ' || (tabs && c = '\t')
    let p := if p.rest.head? = some '#' then p.restOfLine.2 else p
    match p.rest with
    | [] => s.goTo p
    | c :: _ =>
      if isBreak c then
        let s := s.goTo p.lineEnd.2
        skipGap fuel (if s.flowLevel = 0 then s.allowKey true else s)
      else s.goTo p

def documentMark (s : Scan) (t : Token) : Option Scan := do
  let s ← (s.closeBlocks (-1)).dropKey
  return (s.allowKey false |>.push t).goTo (s.cursor.skipMany 3)

def openFlow (s : Scan) (t : Token) : Option Scan := do
  let s ← s.noteKey
  let s := { s with keys := none :: s.keys, flowLevel := s.flowLevel + 1 }
  return (s.allowKey true |>.push t).goTo s.cursor.skip

def closeFlow (s : Scan) (t : Token) : Option Scan := do
  let s ← s.dropKey
  let s := if s.flowLevel = 0 then s
    else { s with keys := s.keys.drop 1, flowLevel := s.flowLevel - 1 }
  return (s.allowKey false |>.push t).goTo s.cursor.skip

def flowEntry (s : Scan) : Option Scan := do
  let s ← s.dropKey
  return (s.allowKey true |>.push .flowEntry).goTo s.cursor.skip

def blockEntry (s : Scan) : Option Scan := do
  if s.flowLevel = 0 ∧ !s.keyAllowed then none
  let s ← (s.openBlock s.cursor.column s.count .blockSequence).dropKey
  return (s.allowKey true |>.push .blockEntry).goTo s.cursor.skip

def explicitKey (s : Scan) : Option Scan := do
  if s.flowLevel = 0 ∧ !s.keyAllowed then none
  let s ← (s.openBlock s.cursor.column s.count .blockMapping).dropKey
  return (s.allowKey (s.flowLevel = 0) |>.push .key).goTo s.cursor.skip

def colon (s : Scan) : Option Scan :=
  match s.keys with
  | some k :: more =>
    let s := { s with keys := none :: more }.insert k.number .key
    let s := (s.openBlock k.column k.number .blockMapping).allowKey false
    some ((s.push .value).goTo s.cursor.skip)
  | _ =>
    if s.flowLevel = 0 ∧ !s.keyAllowed then none
    else
      let s := s.openBlock s.cursor.column s.count .blockMapping
      let s := s.allowKey (s.flowLevel = 0)
      some ((s.push .value).goTo s.cursor.skip)

def named (s : Scan) (token : String → Token) : Option Scan := do
  let s ← s.noteKey
  let (name, p) := s.cursor.skip.takeWhile isNameChar
  if name.isEmpty then none
  match p.rest with
  | c :: _ =>
    if !(isSpace c || isBreak c || "?:,]\x7d%@\x60".toList.contains c) then none
  | [] => pure ()
  return (s.allowKey false |>.push (token (String.ofList name))).goTo p

def tag (s : Scan) : Option Scan := do
  let s ← s.noteKey
  let (text, p) ← tagText? s.cursor
  if !(gapComes p.rest || (s.flowLevel ≠ 0 && p.rest.head? = some ',')) then none
  return (s.allowKey false |>.push (.tag text)).goTo p

def blockScalar (s : Scan) (folded : Bool) : Option Scan := do
  let s ← s.dropKey
  let (text, p) ← blockScalar? folded s.indent s.cursor.skip
  let style := if folded then Style.folded else .literal
  return (s.allowKey true |>.push (.scalar style (String.ofList text.reverse))).goTo p

def quoted (s : Scan) (single : Bool) : Option Scan := do
  let s ← s.noteKey
  let (text, p) ← quotedScalar single (s.cursor.rest.length + 2) [] s.cursor.skip
  return (s.allowKey false |>.push (.scalar .quoted (String.ofList text.reverse))).goTo p

def plain (s : Scan) : Option Scan := do
  let s ← s.noteKey
  let limit := (s.indent + 1).toNat
  let fuel := s.cursor.rest.length + 2
  let (text, broken, p) ← plainScalar (s.flowLevel ≠ 0) limit fuel [] {} s.cursor
  return (s.allowKey broken |>.push (.scalar .plain (String.ofList text.reverse))).goTo p

def directive (s : Scan) : Option Scan := do
  let s ← (s.closeBlocks (-1)).dropKey
  let (d, p) ← directive? s.cursor
  return (s.allowKey false |>.push (.directive d)).goTo p

def isIndicator (c : Char) : Bool := "-?:,[]\x7b\x7d#&*!|>'\"%@\x60".toList.contains c

/-- The next token of text that goes on with `c`. -/
def tokenAt (s : Scan) (c : Char) (cs : List Char) : Option Scan :=
  let flow := s.flowLevel ≠ 0
  if s.cursor.column = 0 && c = '%' then s.directive
  else if s.cursor.atDocumentMark then
    s.documentMark (if c = '-' then .documentStart else .documentEnd)
  else if c = '[' then s.openFlow .flowSequence
  else if c = '\x7b' then s.openFlow .flowMapping
  else if c = ']' then s.closeFlow .flowSequenceEnd
  else if c = '\x7d' then s.closeFlow .flowMappingEnd
  else if c = ',' then s.flowEntry
  else if c = '-' && gapComes cs then s.blockEntry
  else if c = '?' && (flow || gapComes cs) then s.explicitKey
  else if c = ':' && (flow || gapComes cs) then s.colon
  else if c = '*' then s.named .alias
  else if c = '&' then s.named .anchor
  else if c = '!' then s.tag
  else if c = '|' && !flow then s.blockScalar false
  else if c = '>' && !flow then s.blockScalar true
  else if c = '\'' then s.quoted true
  else if c = '"' then s.quoted false
  else if (!isSpace c && !isIndicator c) || (c = '-' && !cs.head?.any isSpace) ||
      (!flow && (c = '?' || c = ':') && !gapComes cs) then s.plain
  else none

def run : Nat → Scan → Option Scan
  | 0, _ => none
  | fuel + 1, s => do
    let s ← (skipGap (s.cursor.rest.length + 1) s).dropStaleKeys
    let s := s.closeBlocks s.cursor.column
    match s.cursor.rest with
    | [] => (s.closeBlocks (-1)).dropKey
    | c :: cs =>
      let s ← s.tokenAt c cs
      run fuel s

end Scan

def tokens? (text : String) : Option (List Token) :=
  let cs := match text.toList with
    | '\uFEFF' :: cs => cs
    | cs => cs
  if cs.all isReadable then
    (Scan.run (cs.length + 2) { cursor := ⟨cs, 0, 0, 0⟩ }).map fun s => s.tokens.reverse
  else none

end Scriptwright.Document.Yaml
