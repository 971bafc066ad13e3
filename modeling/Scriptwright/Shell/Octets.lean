/-!
Bytes as text where not all of them have to be text: each longest piece that begins like a
character but is none becomes a replacement character. A shell handles text byte by byte: there each
character stands for one byte and has a number below 256, so that lengths, patterns and cuts all
count bytes.
-/
namespace Scriptwright

namespace Text

def within (low high : Nat) (b : Option UInt8) : Bool :=
  b.any fun b => low ≤ b.toNat && b.toNat ≤ high

def payload (b : Option UInt8) : Nat := (b.getD 0).toNat % 64

/-- Bytes of the piece that starts with `b`, and its character if it is one. -/
def pieceAt (b : UInt8) (rest : List UInt8) : Nat × Option Char :=
  let n := b.toNat
  let second := rest[0]?
  let third := rest[1]?
  let fourth := rest[2]?
  if n < 0x80 then (1, some (Char.ofNat n))
  else if 0xC2 ≤ n ∧ n ≤ 0xDF then
    if within 0x80 0xBF second then (2, some (Char.ofNat (n % 32 * 64 + payload second)))
    else (1, none)
  else if 0xE0 ≤ n ∧ n ≤ 0xEF then
    let low := if n = 0xE0 then 0xA0 else 0x80
    let high := if n = 0xED then 0x9F else 0xBF
    if !within low high second then (1, none)
    else if !within 0x80 0xBF third then (2, none)
    else (3, some (Char.ofNat (n % 16 * 4096 + payload second * 64 + payload third)))
  else if 0xF0 ≤ n ∧ n ≤ 0xF4 then
    let low := if n = 0xF0 then 0x90 else 0x80
    let high := if n = 0xF4 then 0x8F else 0xBF
    if !within low high second then (1, none)
    else if !within 0x80 0xBF third then (2, none)
    else if !within 0x80 0xBF fourth then (3, none)
    else
      (4, some (Char.ofNat (n % 8 * 262144 + payload second * 4096 + payload third * 64 +
        payload fourth)))
  else (1, none)

/-- Characters of the bytes behind `done` reversed. -/
def lossyFrom (done : List Char) : Nat → List UInt8 → List Char
  | 0, _ => done.reverse
  | _ + 1, [] => done.reverse
  | fuel + 1, b :: rest =>
    let (n, c) := pieceAt b rest
    lossyFrom (c.getD '\uFFFD' :: done) fuel (rest.drop (n - 1))

def lossy (bytes : ByteArray) : String :=
  String.ofList (lossyFrom [] bytes.size bytes.toList)

end Text

namespace Shell

def ofBytes (bytes : ByteArray) : String :=
  String.ofList (bytes.toList.map fun b => Char.ofNat b.toNat)

def toBytes (text : String) : ByteArray :=
  ⟨(text.toList.map fun c => UInt8.ofNat c.toNat).toArray⟩

def ofText (text : String) : String := ofBytes text.toUTF8

def toText (text : String) : String := Text.lossy (toBytes text)

def isBlank (c : Char) : Bool := c = ' ' || c = '\t'

def isSpace (c : Char) : Bool := isBlank c || ('\n' ≤ c && c ≤ '\r')

def isNameStart (c : Char) : Bool := c.isAlpha || c = '_'

def isNameChar (c : Char) : Bool := c.isAlphanum || c = '_'

def isName (text : String) : Bool :=
  match text.toList with
  | c :: cs => isNameStart c && cs.all isNameChar
  | [] => false

def setting? (text : String) : Option (String × String) :=
  match text.toList.span (· != '=') with
  | (name, _ :: value) =>
    let name := String.ofList name
    if isName name then some (name, String.ofList value) else none
  | _ => none

def linesOf (text : String) : List String :=
  (cut [] [] text.toList).reverse.map String.ofList
where
  cut (done : List (List Char)) (line : List Char) : List Char → List (List Char)
    | [] => if line.isEmpty then done else line.reverse :: done
    | c :: cs => if c = '\n' then cut (('\n' :: line).reverse :: done) [] cs else cut done (c :: line) cs

def withoutEnd (line : String) : String :=
  if line.endsWith "\n" then (line.dropEnd 1).toString else line

def plainLines (text : String) : List String := (linesOf text).map withoutEnd

def unlines (lines : List String) : String := String.join (lines.map (· ++ "\n"))

/-- A whole number with a sign perhaps, and nothing else. -/
def integer? (text : String) : Option Int :=
  let natural? (ds : List Char) : Option Nat :=
    if !ds.isEmpty && ds.all Char.isDigit then
      some (ds.foldl (fun n d => n * 10 + (d.toNat - '0'.toNat)) 0)
    else none
  match text.toList with
  | '-' :: ds => (natural? ds).map fun n => -Int.ofNat n
  | '+' :: ds => (natural? ds).map Int.ofNat
  | ds => (natural? ds).map Int.ofNat

end Shell

end Scriptwright
