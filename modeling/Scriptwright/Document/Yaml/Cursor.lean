/-!
A place in YAML text: what is still to be read, with the line, the column and the index where it
starts. Five characters end a line, and a pair of two counts once.
-/
namespace Scriptwright.Document.Yaml

def isBreak (c : Char) : Bool :=
  c = '\n' || c = '\r' || c = '\u0085' || c = '\u2028' || c = '\u2029'

def isSpace (c : Char) : Bool := c = ' ' || c = '\t'

def gapComes : List Char → Bool
  | [] => true
  | c :: _ => isSpace c || isBreak c

def isReadable (c : Char) : Bool :=
  let n := c.toNat
  c = '\t' || c = '\n' || c = '\r' || (0x20 ≤ n && n ≤ 0x7E) || n = 0x85 ||
    (0xA0 ≤ n && n ≤ 0xFFFD) || 0x10000 ≤ n

def hexDigit? (c : Char) : Option Nat :=
  if '0' ≤ c ∧ c ≤ '9' then some (c.toNat - '0'.toNat)
  else if 'a' ≤ c ∧ c ≤ 'f' then some (c.toNat - 'a'.toNat + 10)
  else if 'A' ≤ c ∧ c ≤ 'F' then some (c.toNat - 'A'.toNat + 10)
  else none

/-- The text that is still to be read, and where it starts. -/
structure Cursor where
  rest : List Char
  line : Nat
  column : Nat
  index : Nat

namespace Cursor

def skip (p : Cursor) : Cursor := ⟨p.rest.drop 1, p.line, p.column + 1, p.index + 1⟩

def skipMany (p : Cursor) (n : Nat) : Cursor :=
  ⟨p.rest.drop n, p.line, p.column + n, p.index + n⟩

def lineEnd (p : Cursor) : List Char × Cursor :=
  match p.rest with
  | '\r' :: '\n' :: cs => (['\n'], ⟨cs, p.line + 1, 0, p.index + 2⟩)
  | c :: cs =>
    if c = '\u2028' || c = '\u2029' then ([c], ⟨cs, p.line + 1, 0, p.index + 1⟩)
    else if isBreak c then (['\n'], ⟨cs, p.line + 1, 0, p.index + 1⟩)
    else ([], p)
  | [] => ([], p)

/-- Reads on as long as the test holds; no line end passes it. -/
def takeWhile (test : Char → Bool) (p : Cursor) : List Char × Cursor :=
  let taken := p.rest.takeWhile test
  (taken, p.skipMany taken.length)

def dropWhile (test : Char → Bool) (p : Cursor) : Cursor := (p.takeWhile test).2

def restOfLine (p : Cursor) : List Char × Cursor := p.takeWhile fun c => !isBreak c

def atDocumentMark (p : Cursor) : Bool :=
  p.column = 0 &&
    match p.rest with
    | '-' :: '-' :: '-' :: cs => gapComes cs
    | '.' :: '.' :: '.' :: cs => gapComes cs
    | _ => false

end Cursor

end Scriptwright.Document.Yaml
