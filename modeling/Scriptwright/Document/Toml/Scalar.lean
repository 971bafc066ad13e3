import Scriptwright.Value.Basic

/-!
The simple values of TOML text: strings, truth values and whole numbers. A date or a float is an
error wherever it stands, for no known key holds one.
-/
namespace Scriptwright.Document.Toml

def isGap (c : Char) : Bool := c = ' ' || c = '\t'

def skipGap (cs : List Char) : List Char := cs.dropWhile isGap

/-- Characters that may stand in comments and strings: no control characters but the tab. -/
def isReadable (c : Char) : Bool := c = '\t' || (0x20 ≤ c.toNat && c ≠ '\x7f')

def lineEnd? : List Char → Option (List Char)
  | '\n' :: rest => some rest
  | '\r' :: '\n' :: rest => some rest
  | _ => none

def hexDigit? (c : Char) : Option Nat :=
  if '0' ≤ c ∧ c ≤ '9' then some (c.toNat - '0'.toNat)
  else if 'a' ≤ c ∧ c ≤ 'f' then some (c.toNat - 'a'.toNat + 10)
  else if 'A' ≤ c ∧ c ≤ 'F' then some (c.toNat - 'A'.toNat + 10)
  else none

/-- A character by its number in `digits` hexadecimal digits. -/
def numberedChar? (digits : Nat) (cs : List Char) : Option (Char × List Char) := do
  let ds := cs.take digits
  if ds.length < digits then none
  let values ← ds.mapM hexDigit?
  let n := values.foldl (fun n d => n * 16 + d) 0
  if (0xD800 ≤ n ∧ n < 0xE000) ∨ 0x10FFFF < n then none
  return (Char.ofNat n, cs.drop digits)

def escape? : List Char → Option (Char × List Char)
  | 'b' :: rest => some ('\x08', rest)
  | 't' :: rest => some ('\t', rest)
  | 'n' :: rest => some ('\n', rest)
  | 'f' :: rest => some ('\x0c', rest)
  | 'r' :: rest => some ('\r', rest)
  | '"' :: rest => some ('"', rest)
  | '\\' :: rest => some ('\\', rest)
  | 'u' :: rest => numberedChar? 4 rest
  | 'U' :: rest => numberedChar? 8 rest
  | _ => none

/-- A string on one line, behind its opening quote; `done` holds its characters reversed. -/
def oneLine (quote : Char) : Nat → List Char → List Char → Option (String × List Char)
  | 0, _, _ => none
  | fuel + 1, done, cs =>
    match cs with
    | [] => none
    | c :: rest =>
      if c = quote then some (String.ofList done.reverse, rest)
      else if c = '\\' && quote = '"' then
        match escape? rest with
        | some (e, rest) => oneLine quote fuel (e :: done) rest
        | none => none
      else if isReadable c then oneLine quote fuel (c :: done) rest
      else none

/-- Whether nothing but gaps stands before the next line end. -/
def onlyGapFollows (cs : List Char) : Bool := (lineEnd? (skipGap cs)).isSome

def skipBlankLines : Nat → List Char → List Char
  | 0, cs => cs
  | fuel + 1, cs =>
    match lineEnd? (skipGap cs) with
    | some rest => skipBlankLines fuel rest
    | none => skipGap cs

/-- A string of several lines behind its three opening quotes. Up to two quotes may stand in front
of the closing ones, and a backslash at the end of a line joins it to the next text. -/
def manyLines (quote : Char) : Nat → List Char → List Char → Option (String × List Char)
  | 0, _, _ => none
  | fuel + 1, done, cs =>
    match cs with
    | [] => none
    | c :: rest =>
      if c = quote then
        let quotes := (cs.takeWhile (· == quote)).length
        if quotes < 3 then manyLines quote fuel (c :: done) rest
        else if quotes ≤ 5 then
          some (String.ofList (List.replicate (quotes - 3) quote ++ done).reverse, cs.drop quotes)
        else none
      else if c = '\\' && quote = '"' then
        if onlyGapFollows rest then manyLines quote fuel done (skipBlankLines rest.length rest)
        else
          match escape? rest with
          | some (e, rest) => manyLines quote fuel (e :: done) rest
          | none => none
      else
        match lineEnd? cs with
        | some rest => manyLines quote fuel ('\n' :: done) rest
        | none => if isReadable c then manyLines quote fuel (c :: done) rest else none

def string? (quote : Char) (cs : List Char) : Option (String × List Char) :=
  match cs with
  | a :: b :: c :: rest =>
    if a = quote ∧ b = quote ∧ c = quote then
      manyLines quote (rest.length + 1) [] ((lineEnd? rest).getD rest)
    else if a = quote then oneLine quote (cs.length + 1) [] (b :: c :: rest) else none
  | a :: rest => if a = quote then oneLine quote (cs.length + 1) [] rest else none
  | [] => none

def digitValue? (base : Nat) (c : Char) : Option Nat := (hexDigit? c).filter (· < base)

def digits? (base : Nat) : List Char → Option (List Nat)
  | [] => none
  | [c] => (digitValue? base c).map fun d => [d]
  | c :: '_' :: rest => do
    let d ← digitValue? base c
    let ds ← digits? base rest
    return d :: ds
  | c :: rest => do
    let d ← digitValue? base c
    let ds ← digits? base rest
    return d :: ds

def natural? (base : Nat) (cs : List Char) : Option Nat :=
  (digits? base cs).map fun ds => ds.foldl (fun n d => n * base + d) 0

def decimal? (cs : List Char) : Option Nat :=
  match cs with
  | '0' :: _ :: _ => none
  | cs => natural? 10 cs

def whole? (cs : List Char) : Option Int :=
  let n : Option Int := match cs with
    | '0' :: 'x' :: ds => (natural? 16 ds).map Int.ofNat
    | '0' :: 'o' :: ds => (natural? 8 ds).map Int.ofNat
    | '0' :: 'b' :: ds => (natural? 2 ds).map Int.ofNat
    | '+' :: ds => (decimal? ds).map Int.ofNat
    | '-' :: ds => (decimal? ds).map fun n => -Int.ofNat n
    | ds => (decimal? ds).map Int.ofNat
  n.filter Number.isSigned

def isWordChar (c : Char) : Bool := c.isAlphanum || c = '_' || c = '+' || c = '-'

def word? (cs : List Char) : Option Value :=
  if cs = "true".toList then some (.bool true)
  else if cs = "false".toList then some (.bool false)
  else (whole? cs).map fun n => .number (.int n)

def scalar? (cs : List Char) : Option (Value × List Char) :=
  match cs with
  | '"' :: _ => (string? '"' cs).map fun (s, rest) => (.string s, rest)
  | '\'' :: _ => (string? '\'' cs).map fun (s, rest) => (.string s, rest)
  | cs =>
    let (word, rest) := cs.span isWordChar
    (word? word).map fun v => (v, rest)

end Scriptwright.Document.Toml
