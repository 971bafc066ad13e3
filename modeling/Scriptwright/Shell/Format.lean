import Scriptwright.Decimal.Rounded
import Scriptwright.Shell.Octets

/-!
Texts with escapes and with places for arguments, as the printing commands of a shell read them.
-/
namespace Scriptwright.Shell.Format

def isOctal (c : Char) : Bool := '0' ≤ c && c ≤ '7'

def octalByte (ds : List Char) : Char :=
  Char.ofNat (ds.foldl (fun n d => n * 8 + (d.toNat - '0'.toNat)) 0 % 256)

def escaped? : Char → Option Char
  | 'a' => some '\x07'
  | 'b' => some '\x08'
  | 'e' => some '\x1b'
  | 'f' => some '\x0c'
  | 'n' => some '\n'
  | 'r' => some '\r'
  | 't' => some '\t'
  | 'v' => some '\x0b'
  | '\\' => some '\\'
  | '"' => some '"'
  | _ => none

/-- What a backslash stands for, with what follows; octal digits name a byte. -/
def escape (cs : List Char) : List Char × List Char :=
  match cs with
  | [] => (['\\'], [])
  | c :: rest =>
    match escaped? c with
    | some e => ([e], rest)
    | none =>
      let digits := (cs.take 3).takeWhile isOctal
      if digits.isEmpty then (['\\'], cs) else ([octalByte digits], cs.drop digits.length)

/-- A text with its escapes put in, and whether one of them ends the output. A zero may stand in
front of the digits of a byte. -/
def unescaped : Nat → List Char → List Char × Bool
  | 0, _ => ([], false)
  | fuel + 1, cs =>
    match cs with
    | [] => ([], false)
    | '\\' :: 'c' :: _ => ([], true)
    | '\\' :: '0' :: cs =>
      let digits := (cs.take 3).takeWhile isOctal
      let (more, ends) := unescaped fuel (cs.drop digits.length)
      (octalByte digits :: more, ends)
    | '\\' :: cs =>
      let (bytes, cs) := escape cs
      let (more, ends) := unescaped fuel cs
      (bytes ++ more, ends)
    | c :: cs =>
      let (more, ends) := unescaped fuel cs
      (c :: more, ends)

def echoed (words : List String) : String :=
  let (words, ending) := match words with
    | "-n" :: words => (words, "")
    | words => (words, "\n")
  let cs := (String.intercalate " " words).toList
  let (text, ends) := unescaped (cs.length + 1) cs
  String.ofList text ++ if ends then "" else ending

structure Place where
  left : Bool
  plus : Bool
  blank : Bool
  hash : Bool
  zero : Bool
  width : Nat
  precision : Option Nat

namespace Place

/-- A text brought to the width; zeros go behind the sign. -/
def padded (p : Place) (numeric : Bool) (sign text : String) : String :=
  let missing := p.width - (sign.length + text.length)
  let fill (c : Char) : String := String.ofList (List.replicate missing c)
  if p.left then sign ++ text ++ fill ' '
  else if numeric && p.zero then sign ++ fill '0' ++ text
  else fill ' ' ++ sign ++ text

def signOf (p : Place) (negative : Bool) : String :=
  if negative then "-" else if p.plus then "+" else if p.blank then " " else ""

def whole (p : Place) (sign : String) (digits : String) : String :=
  match p.precision with
  | none => p.padded true sign digits
  | some n =>
    let digits := if n = 0 && digits = "0" then "" else digits
    { p with zero := false }.padded true sign (Decimal.padded n digits)

def float (p : Place) (letter : Char) (x : Float) : String :=
  let sign := p.signOf (Decimal.isNegative x && !x.isNaN)
  let places := p.precision.getD 6
  let upper := letter.isUpper
  if x.isNaN then { p with zero := false }.padded true sign (if upper then "NAN" else "nan")
  else if x.isInf then { p with zero := false }.padded true sign (if upper then "INF" else "inf")
  else
    let text := match letter.toLower with
      | 'f' => Decimal.withPlaces places x ++ if p.hash && places = 0 then "." else ""
      | 'e' => Decimal.withExponent (if upper then "E" else "e") places x
      | _ => Decimal.withDigits (if upper then "E" else "e") places x
    p.padded true sign text

end Place

structure Progress where
  arguments : List String
  output : String := ""
  complaints : List String := []
  status : Nat := 0

abbrev Printing := StateM Progress

def emit (text : String) : Printing Unit := modify fun p => { p with output := p.output ++ text }

def complain (text : String) : Printing Unit :=
  modify fun p => { p with complaints := p.complaints ++ [text], status := 1 }

def nextArgument : Printing (Option String) := do
  let p ← get
  match p.arguments with
  | [] => return none
  | a :: rest =>
    set { p with arguments := rest }
    return some a

def digitsOf (cs : List Char) : Option Nat × List Char :=
  let value (base : Nat) (ds : List Char) : Nat :=
    ds.foldl (fun n d => n * base + hexValue d) 0
  match cs with
  | '0' :: x :: d :: rest =>
    if (x = 'x' || x = 'X') && isHex d then
      let (ds, rest) := (d :: rest).span isHex
      (some (value 16 ds), rest)
    else
      let (ds, rest) := cs.span isOctal
      (some (value 8 ds), rest)
  | '0' :: _ =>
    let (ds, rest) := cs.span isOctal
    (some (value 8 ds), rest)
  | cs =>
    let (ds, rest) := cs.span Char.isDigit
    (if ds.isEmpty then none else some (value 10 ds), rest)
where
  isHex (c : Char) : Bool := c.isDigit || ('a' ≤ c.toLower && c.toLower ≤ 'f')
  hexValue (c : Char) : Nat :=
    if c.isDigit then c.toNat - '0'.toNat else c.toLower.toNat - 'a'.toNat + 10

/-- Complains about an argument that is no number as a whole. -/
def checked (text : String) (found : Bool) (rest : List Char) : Printing Unit := do
  if !rest.isEmpty then
    complain (text ++ if found then ": not completely converted" else ": expected numeric value")

/-- The whole number that an argument stands for; a quote stands for the number of the character
behind it. -/
def wholeArgument (signed : Bool) : Printing Int := do
  match ← nextArgument with
  | none => return 0
  | some text =>
    match text.toList with
    | '\'' :: rest | '"' :: rest => return ((rest.head?.map Char.toNat).getD 0 : Nat)
    | cs =>
      let trimmed := cs.dropWhile isSpace
      let (negative, ds) := match trimmed with
        | '-' :: ds => (true, ds)
        | '+' :: ds => (false, ds)
        | ds => (false, ds)
      match digitsOf ds with
      | (none, _) =>
        checked text false cs
        return 0
      | (some n, rest) =>
        checked text true rest
        let n : Int := if negative then -n else n
        let low : Int := if signed then -0x8000000000000000 else -0xFFFFFFFFFFFFFFFF
        let high : Int := if signed then 0x7FFFFFFFFFFFFFFF else 0xFFFFFFFFFFFFFFFF
        if n < low || high < n then
          if rest.isEmpty then complain (text ++ ": Numerical result out of range")
          return if n < low then low else high
        else return n

def isWordOf (cs : List Char) (words : List String) : Bool :=
  words.contains (String.ofList (cs.map Char.toLower))

def floatArgument : Printing Float := do
  match ← nextArgument with
  | none => return 0
  | some text =>
    match text.toList with
    | '\'' :: rest | '"' :: rest => return ((rest.head?.map Char.toNat).getD 0).toFloat
    | cs =>
      let trimmed := cs.dropWhile isSpace
      let (negative, ds) := match trimmed with
        | '-' :: ds => (true, ds)
        | '+' :: ds => (false, ds)
        | ds => (false, ds)
      let signed (x : Float) : Float := if negative then -x else x
      if isWordOf ds ["inf", "infinity"] then return signed (1.0 / 0.0)
      else if isWordOf ds ["nan"] then return signed (0.0 / 0.0)
      else
        let (whole, rest) := ds.span Char.isDigit
        let (places, rest) := match rest with
          | '.' :: rest => rest.span Char.isDigit
          | rest => ([], rest)
        if whole.isEmpty && places.isEmpty then
          checked text false cs
          return 0
        let (power, rest) := exponent rest
        checked text true rest
        let n := (whole ++ places).foldl (fun n d => n * 10 + (d.toNat - '0'.toNat)) 0
        return signed ((Decimal.nearest? n (power - places.length)).getD (1.0 / 0.0))
where
  exponent (cs : List Char) : Int × List Char :=
    match cs with
    | e :: rest =>
      if e = 'e' || e = 'E' then
        let (negative, ds) := match rest with
          | '-' :: ds => (true, ds)
          | '+' :: ds => (false, ds)
          | ds => (false, ds)
        let (digits, more) := ds.span Char.isDigit
        let n := digits.foldl (fun n d => n * 10 + (d.toNat - '0'.toNat)) 0
        if digits.isEmpty then (0, cs) else (if negative then -(n : Int) else n, more)
      else (0, cs)
    | [] => (0, [])

def count : List Char → Printing (Option Int × List Char)
  | '*' :: rest => return (some (← wholeArgument true), rest)
  | cs => do
    let (ds, rest) := cs.span Char.isDigit
    let n := ds.foldl (fun n d => n * 10 + (d.toNat - '0'.toNat)) 0
    return (if ds.isEmpty then none else some (n : Int), rest)

def place (cs : List Char) : Printing (Place × List Char) := do
  let (flags, rest) := cs.span fun c => "#-+ 0".toList.contains c
  let (width, rest) ← count rest
  let (precision, rest) ← match rest with
    | '.' :: rest => do
      let (n, rest) ← count rest
      pure (if n.any (· < 0) then none else some ((n.getD 0).toNat), rest)
    | rest => pure (none, rest)
  let width := width.getD 0
  let p : Place := {
    left := flags.contains '-' || width < 0
    plus := flags.contains '+'
    blank := flags.contains ' '
    hash := flags.contains '#'
    zero := flags.contains '0'
    width := width.natAbs
    precision }
  return (p, rest)

def cut (p : Place) (text : List Char) : String :=
  String.ofList (match p.precision with
    | some n => text.take n
    | none => text)

def inBase (base : Nat) (n : Nat) : String := String.ofList (Nat.toDigits base n)

def unsigned (p : Place) (letter : Char) : Printing String := do
  let n ← wholeArgument false
  let n : Nat := (if n < 0 then 0x10000000000000000 + n else n).toNat
  match letter with
  | 'o' =>
    let digits := inBase 8 n
    return p.whole "" (if p.hash && n ≠ 0 then "0" ++ digits else digits)
  | 'x' => return p.whole (if p.hash && n ≠ 0 then "0x" else "") (inBase 16 n)
  | 'X' => return p.whole (if p.hash && n ≠ 0 then "0X" else "") (inBase 16 n).toUpper
  | _ => return p.whole "" (toString n)

inductive Ending where
  | complete
  /-- An escape in an argument ended the output. -/
  | cut
  | invalid (problem : String)

def once : Nat → List Char → Printing Ending
  | 0, _ => return .complete
  | fuel + 1, cs => do
    match cs with
    | [] => return .complete
    | '\\' :: cs =>
      let (bytes, cs) := escape cs
      emit (String.ofList bytes)
      once fuel cs
    | '%' :: '%' :: cs =>
      emit "%"
      once fuel cs
    | '%' :: cs =>
      let (p, rest) ← place cs
      match rest with
      | [] => return .invalid "missing format character"
      | letter :: rest =>
        match letter with
        | 'b' =>
          let text := ((← nextArgument).getD "").toList
          let (text, ends) := unescaped (text.length + 1) text
          emit (p.padded false "" (cut p text))
          if ends then return .cut else once fuel rest
        | 'c' =>
          let c := (((← nextArgument).getD "").toList.head?).getD '\x00'
          emit (p.padded false "" c.toString)
          once fuel rest
        | 's' =>
          emit (p.padded false "" (cut p ((← nextArgument).getD "").toList))
          once fuel rest
        | 'd' | 'i' =>
          let n ← wholeArgument true
          emit (p.whole (p.signOf (n < 0)) (toString n.natAbs))
          once fuel rest
        | 'o' | 'u' | 'x' | 'X' =>
          emit (← unsigned p letter)
          once fuel rest
        | 'e' | 'E' | 'f' | 'F' | 'g' | 'G' =>
          emit (p.float letter (← floatArgument))
          once fuel rest
        | _ =>
          let shown := '%' :: cs.take (cs.length - rest.length)
          return .invalid (String.ofList shown ++ ": invalid directive")
    | c :: cs =>
      emit c.toString
      once fuel cs

/-- Runs through a format as long as arguments are left and taken. -/
def formatted (format : List Char) : Nat → Printing Ending
  | 0 => return .complete
  | fuel + 1 => do
    let before := (← get).arguments.length
    match ← once (format.length + 1) format with
    | .complete =>
      let after := (← get).arguments.length
      if after ≠ 0 && after < before then formatted format fuel else return .complete
    | ending => return ending

end Scriptwright.Shell.Format
