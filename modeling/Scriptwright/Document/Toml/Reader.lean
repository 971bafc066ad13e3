import Scriptwright.Document.Shape
import Scriptwright.Document.Toml.Scalar
import Scriptwright.Document.Toml.Table

/-!
TOML text: lines that set keys, and headers that say into which table. A list of tables is an error
wherever it stands, for no known key holds one.
-/
namespace Scriptwright.Document

namespace Toml

def isKeyChar (c : Char) : Bool := c.isAlphanum || c = '_' || c = '-'

def keyPart? (cs : List Char) : Option (String × List Char) :=
  match cs with
  | '"' :: rest => oneLine '"' (rest.length + 1) [] rest
  | '\'' :: rest => oneLine '\'' (rest.length + 1) [] rest
  | cs =>
    match cs.span isKeyChar with
    | ([], _) => none
    | (name, rest) => some (String.ofList name, rest)

def key? : Nat → List Char → Option (List String × List Char)
  | 0, _ => none
  | fuel + 1, cs => do
    let (part, rest) ← keyPart? (skipGap cs)
    match skipGap rest with
    | '.' :: rest => do
      let (parts, rest) ← key? fuel rest
      return (part :: parts, rest)
    | rest => return ([part], rest)

def skipComment : List Char → List Char
  | '#' :: rest => rest.dropWhile isReadable
  | cs => cs

/-- The rest of a line: a comment perhaps, and its end. -/
def endOfLine? (cs : List Char) : Option (List Char) :=
  match skipComment (skipGap cs) with
  | [] => some []
  | cs => lineEnd? cs

def skipLines : Nat → List Char → List Char
  | 0, cs => cs
  | fuel + 1, cs =>
    let cs := skipGap cs
    match lineEnd? (skipComment cs) with
    | some rest => skipLines fuel rest
    | none => cs

mutual

def value? : Nat → List Char → Option (Value × List Char)
  | 0, _ => none
  | fuel + 1, cs =>
    match cs with
    | '[' :: rest => items? fuel [] (skipLines (rest.length + 1) rest)
    | '\x7b' :: rest =>
      match skipGap rest with
      | '\x7d' :: rest => some (.object [], rest)
      | rest => pairs? fuel {} rest
    | cs => scalar? cs

/-- Items up to the closing bracket, behind those in `done` (reversed); a comma may end them. -/
def items? : Nat → List Value → List Char → Option (Value × List Char)
  | 0, _, _ => none
  | fuel + 1, done, cs =>
    match cs with
    | ']' :: rest => some (.array done.reverse, rest)
    | cs => do
      let (item, rest) ← value? fuel cs
      match skipLines (rest.length + 1) rest with
      | ',' :: rest => items? fuel (item :: done) (skipLines (rest.length + 1) rest)
      | ']' :: rest => some (.array (item :: done).reverse, rest)
      | _ => none

def pairs? : Nat → Tables → List Char → Option (Value × List Char)
  | 0, _, _ => none
  | fuel + 1, t, cs => do
    let (key, rest) ← key? (cs.length + 1) cs
    match rest with
    | '=' :: rest => do
      let (v, rest) ← value? fuel (skipGap rest)
      let t ← t.assigned? [] key v
      match skipGap rest with
      | ',' :: rest => pairs? fuel t rest
      | '\x7d' :: rest => some (.object t.entries, rest)
      | _ => none
    | _ => none

end

/-- The entries of the lines; `base` is the table of the last header. -/
def entries? : Nat → List String → Tables → List Char → Option Entries
  | 0, _, _, _ => none
  | fuel + 1, base, t, cs =>
    match skipGap cs with
    | [] => some t.entries
    | c :: rest =>
      if c = '#' || c = '\n' || c = '\r' then do
        let rest ← endOfLine? (c :: rest)
        entries? fuel base t rest
      else if c = '[' then do
        let (path, rest) ← key? (rest.length + 1) rest
        match rest with
        | ']' :: rest => do
          let t ← t.headed? path
          let rest ← endOfLine? rest
          entries? fuel path t rest
        | _ => none
      else do
        let (key, rest) ← key? (rest.length + 2) (c :: rest)
        match rest with
        | '=' :: rest => do
          let (v, rest) ← value? (2 * rest.length + 2) (skipGap rest)
          let t ← t.assigned? base key v
          let rest ← endOfLine? rest
          entries? fuel base t rest
        | _ => none

/-- A name out of several may also be written as the one key of a table, over an empty table or an
empty list. -/
def shaped? : Shape → Value → Option Value
  | .optional shape, v | .defaulted shape, v => shaped? shape v
  | .choice, .object [(name, .object [])] | .choice, .object [(name, .array [])] =>
    some (.string name)
  | .choice, .object _ => none
  | _, v => some v

end Toml

/-- The entries of a TOML text; an unknown key is an error. -/
def toml? (fields : List (String × Shape)) (text : String) : Option Value := do
  let cs := match text.toList with
    | '\uFEFF' :: cs => cs
    | cs => cs
  let entries ← Toml.entries? (cs.length + 1) [] {} cs
  let shaped ← entries.mapM fun (k, v) => do
    let shape ← fields.lookup k
    let v ← Toml.shaped? shape v
    return (k, v)
  return .object shaped

end Scriptwright.Document
