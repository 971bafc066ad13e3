import Scriptwright.Document.Yaml.Cursor

/-!
The text of scalars as it is laid out in lines: plain, in quotes, and in indented blocks. Line ends
inside a scalar fold into blanks unless the layout keeps them.
-/
namespace Scriptwright.Document.Yaml

structure Gap where
  /-- Reversed. -/
  blanks : List Char := []
  first : List Char := []
  more : List Char := []
  broken : Bool := false

/-- What remains of a gap: blanks stay, a single line feed becomes a space, and of several the
first is dropped. -/
def Gap.text (g : Gap) : List Char :=
  if g.broken then
    if g.first = ['\n'] then (if g.more.isEmpty then [' '] else g.more) else g.first ++ g.more
  else g.blanks.reverse

/-- Reads a gap. Behind a line end no tab may stand left of the column `limit`. -/
def readGap (limit : Nat) : Nat → Gap → Cursor → Option (Gap × Cursor)
  | 0, _, _ => none
  | fuel + 1, g, p =>
    match p.rest with
    | [] => some (g, p)
    | c :: _ =>
      if isSpace c then
        if g.broken then
          if c = '\t' && p.column < limit then none else readGap limit fuel g p.skip
        else readGap limit fuel { g with blanks := c :: g.blanks } p.skip
      else if isBreak c then
        let (ending, q) := p.lineEnd
        if g.broken then readGap limit fuel { g with more := g.more ++ ending } q
        else readGap limit fuel { g with blanks := [], first := ending, broken := true } q
      else some (g, p)

def isFlowIndicator (c : Char) : Bool :=
  c = ',' || c = '[' || c = ']' || c = '\x7b' || c = '\x7d'

def startsWithFlowIndicator : List Char → Bool
  | c :: _ => isFlowIndicator c || c = '?'
  | [] => false

/-- The rest of a word of a plain scalar, in front of which `done` stands reversed. -/
def plainWord (flow : Bool) : Nat → List Char → Cursor → Option (List Char × Cursor)
  | 0, _, _ => none
  | fuel + 1, done, p =>
    match p.rest with
    | [] => some (done, p)
    | c :: cs =>
      if isSpace c || isBreak c then some (done, p)
      else if flow && c = ':' && startsWithFlowIndicator cs then none
      else if (c = ':' && gapComes cs) || (flow && isFlowIndicator c) then some (done, p)
      else plainWord flow fuel (c :: done) p.skip

/-- A plain scalar: its text reversed, whether a line end follows it, and the place behind it. -/
def plainScalar (flow : Bool) (limit : Nat) : Nat → List Char → Gap → Cursor →
    Option (List Char × Bool × Cursor)
  | 0, _, _, _ => none
  | fuel + 1, done, gap, p =>
    if p.atDocumentMark || p.rest.head? = some '#' then some (done, gap.broken, p)
    else
      match plainWord flow fuel [] p with
      | none => none
      | some ([], p) => some (done, gap.broken, p)
      | some (word, p) =>
        let done := word ++ gap.text.reverse ++ done
        match p.rest with
        | [] => some (done, false, p)
        | c :: _ =>
          if !(isSpace c || isBreak c) then some (done, false, p)
          else
            match readGap limit fuel {} p with
            | none => none
            | some (gap, p) =>
              if !flow && p.column < limit then some (done, gap.broken, p)
              else plainScalar flow limit fuel done gap p

/-- A character by its number in `digits` hexadecimal digits. -/
def numberedChar? (digits : Nat) (cs : List Char) : Option (List Char × Nat) := do
  let ds := cs.take digits
  if ds.length < digits then none
  let values ← ds.mapM hexDigit?
  let n := values.foldl (fun n d => n * 16 + d) 0
  if (0xD800 ≤ n ∧ n < 0xE000) ∨ 0x10FFFF < n then none
  return ([Char.ofNat n], digits + 1)

/-- The character that an escape stands for, and how many characters follow the backslash. -/
def escape? : List Char → Option (List Char × Nat)
  | [] => none
  | c :: cs =>
    match c with
    | '0' => some (['\x00'], 1)
    | 'a' => some (['\x07'], 1)
    | 'b' => some (['\x08'], 1)
    | 't' | '\t' => some (['\t'], 1)
    | 'n' => some (['\n'], 1)
    | 'v' => some (['\x0b'], 1)
    | 'f' => some (['\x0c'], 1)
    | 'r' => some (['\r'], 1)
    | 'e' => some (['\x1b'], 1)
    | ' ' => some ([' '], 1)
    | '"' => some (['"'], 1)
    | '/' => some (['/'], 1)
    | '\\' => some (['\\'], 1)
    | 'N' => some (['\u0085'], 1)
    | '_' => some (['\u00a0'], 1)
    | 'L' => some (['\u2028'], 1)
    | 'P' => some (['\u2029'], 1)
    | 'x' => numberedChar? 2 cs
    | 'u' => numberedChar? 4 cs
    | 'U' => numberedChar? 8 cs
    | _ => none

/-- A run of a quoted scalar up to white space or the closing quote; the flag tells that an escaped
line end stands behind it. -/
def quotedRun (single : Bool) : Nat → List Char → Cursor → Option (List Char × Bool × Cursor)
  | 0, _, _ => none
  | fuel + 1, done, p =>
    match p.rest with
    | [] => some (done, false, p)
    | c :: cs =>
      if isSpace c || isBreak c then some (done, false, p)
      else if single then
        if c = '\'' then
          if cs.head? = some '\'' then quotedRun single fuel ('\'' :: done) (p.skipMany 2)
          else some (done, false, p)
        else quotedRun single fuel (c :: done) p.skip
      else if c = '"' then some (done, false, p)
      else if c = '\\' then
        if cs.head?.any isBreak then some (done, true, p.skip.lineEnd.2)
        else
          match escape? cs with
          | some (image, n) => quotedRun single fuel (image.reverse ++ done) (p.skipMany (n + 1))
          | none => none
      else quotedRun single fuel (c :: done) p.skip

/-- A quoted scalar behind its opening quote: its text reversed, and the place behind it. -/
def quotedScalar (single : Bool) : Nat → List Char → Cursor → Option (List Char × Cursor)
  | 0, _, _ => none
  | fuel + 1, done, p =>
    if p.atDocumentMark then none
    else
      match quotedRun single fuel done p with
      | none => none
      | some (done, escaped, p) =>
        match p.rest with
        | [] => none
        | c :: _ =>
          if c = (if single then '\'' else '"') then some (done, p.skip)
          else
            match readGap 0 fuel { broken := escaped } p with
            | none => none
            | some (gap, p) => quotedScalar single fuel (gap.text.reverse ++ done) p

/-- Spaces of an indentation, at most up to the column `limit` if there is one. -/
def skipIndent (limit : Option Nat) : Nat → Cursor → Cursor
  | 0, p => p
  | fuel + 1, p =>
    if p.rest.head? = some ' ' && limit.all (p.column < ·) then skipIndent limit fuel p.skip else p

/-- Empty lines of a block scalar: the deepest indentation in them, their line ends, and the place
behind the indentation of the next line. -/
def emptyLines (limit : Option Nat) : Nat → Nat → List Char → Cursor →
    Option (Nat × List Char × Cursor)
  | 0, _, _, _ => none
  | fuel + 1, deepest, breaks, p =>
    let p := skipIndent limit fuel p
    let deepest := max deepest p.column
    match p.rest with
    | [] => some (deepest, breaks, p)
    | c :: _ =>
      if c = '\t' && limit.all (p.column < ·) then none
      else if isBreak c then
        let (ending, q) := p.lineEnd
        emptyLines limit fuel deepest (breaks ++ ending) q
      else some (deepest, breaks, p)

inductive Chomping where
  | strip
  | clip
  | keep
deriving DecidableEq, Repr

def blockHeader? (p : Cursor) : Option (Chomping × Option Nat × Cursor) :=
  let chomping := fun (p : Cursor) =>
    match p.rest with
    | '+' :: _ => (some Chomping.keep, p.skip)
    | '-' :: _ => (some Chomping.strip, p.skip)
    | _ => (none, p)
  let increment := fun (p : Cursor) =>
    match p.rest with
    | c :: _ =>
      if c = '0' then none
      else if c.isDigit then some (some (c.toNat - '0'.toNat), p.skip) else some (none, p)
    | [] => some (none, p)
  match chomping p with
  | (some c, p) => (increment p).map fun (n, p) => (c, n, p)
  | (none, p) =>
    (increment p).map fun (n, p) =>
      match n, chomping p with
      | some _, (some c, p) => (c, n, p)
      | _, _ => (.clip, n, p)

/-- The lines of a block scalar behind its header. `ending` is the line end before the next line,
`breaks` those of the empty lines behind it, and `indented` tells that the line before began with
a blank; such lines are not folded. -/
def blockLines (folded : Bool) (indent : Nat) (chomping : Chomping) :
    Nat → List Char → List Char → List Char → Bool → Cursor → Option (List Char × Cursor)
  | 0, _, _, _, _, _ => none
  | fuel + 1, done, ending, breaks, indented, p =>
    match p.rest with
    | c :: _ =>
      if p.column = indent then
        let blank := isSpace c
        let joint :=
          if folded && ending = ['\n'] && !indented && !blank then
            if breaks.isEmpty then [' '] else []
          else ending
        let (line, q) := p.restOfLine
        let done := line.reverse ++ breaks.reverse ++ joint.reverse ++ done
        let (ending, q) := q.lineEnd
        match emptyLines (some indent) fuel 0 [] q with
        | none => none
        | some (_, breaks, q) => blockLines folded indent chomping fuel done ending breaks blank q
      else some (finish done ending breaks, p)
    | [] => some (finish done ending breaks, p)
where
  finish (done ending breaks : List Char) : List Char :=
    match chomping with
    | .strip => done
    | .clip => ending.reverse ++ done
    | .keep => breaks.reverse ++ ending.reverse ++ done

/-- A block scalar behind its indicator; `outer` is the indentation it is nested in. -/
def blockScalar? (folded : Bool) (outer : Int) (p : Cursor) : Option (List Char × Cursor) := do
  let fuel := p.rest.length + 2
  let (chomping, increment, p) ← blockHeader? p
  let p := p.dropWhile isSpace
  let p := if p.rest.head? = some '#' then p.restOfLine.2 else p
  match p.rest with
  | c :: _ => if !isBreak c then none
  | [] => pure ()
  let p := p.lineEnd.2
  match increment with
  | some n =>
    let indent := (max outer 0).toNat + n
    let (_, breaks, p) ← emptyLines (some indent) fuel 0 [] p
    blockLines folded indent chomping fuel [] [] breaks false p
  | none =>
    let (deepest, breaks, p) ← emptyLines none fuel 0 [] p
    let indent := max (max deepest (outer + 1).toNat) 1
    blockLines folded indent chomping fuel [] [] breaks false p

end Scriptwright.Document.Yaml
