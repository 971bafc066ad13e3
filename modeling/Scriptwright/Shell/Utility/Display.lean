import Scriptwright.Shell.Utility.Basic

/-!
Programs that show their input, as a whole, in part, or line by line.
-/
namespace Scriptwright.Shell.Utility

def padLeft (width : Nat) (text : String) : String :=
  String.ofList (List.replicate (width - text.length) ' ') ++ text

structure LineStyle where
  numbers : Bool
  /-- Only lines that are not empty are numbered. -/
  skipsEmpty : Bool
  squeezes : Bool
  marksEnds : Bool
  spellsTabs : Bool
  spellsOthers : Bool

def LineStyle.isPlain (s : LineStyle) : Bool :=
  !s.numbers && !s.squeezes && !s.marksEnds && !s.spellsTabs && !s.spellsOthers

/-- A character that cannot be seen, spelled with those that can. -/
def spelledChar (c : Char) : List Char :=
  let low (n : Nat) : List Char :=
    if n < 32 then ['^', Char.ofNat (n + 64)] else if n = 127 then ['^', '?'] else [Char.ofNat n]
  if c.toNat < 128 then low c.toNat else ['M', '-'] ++ low (c.toNat - 128)

def LineStyle.char (s : LineStyle) (c : Char) : List Char :=
  if c = '\t' then if s.spellsTabs then ['^', 'I'] else [c]
  else if s.spellsOthers then spelledChar c else [c]

/-- Shows lines, numbered on from `number`; `afterEmpty` tells whether the last one was empty. -/
def LineStyle.shown (s : LineStyle) : Nat → Bool → List String → List String
  | _, _, [] => []
  | number, afterEmpty, line :: rest =>
    let body := withoutEnd line
    let isEmpty := body = ""
    if s.squeezes && isEmpty && afterEmpty then shown s number true rest
    else
      let counts := s.numbers && !(s.skipsEmpty && isEmpty)
      let opening := if counts then padLeft 6 (toString number) ++ "\t" else ""
      let text := String.ofList (body.toList.flatMap s.char)
      let ending := if line.endsWith "\n" then (if s.marksEnds then "$\n" else "\n") else ""
      (opening ++ text ++ ending) :: shown s (if counts then number + 1 else number) isEmpty rest

def cat : Utility :=
  withOptions "cat" ⟨"nbsEuvAeTt".toList, [], [("number", 'n'), ("number-nonblank", 'b'),
      ("squeeze-blank", 's'), ("show-ends", 'E'), ("show-tabs", 'T'), ("show-nonprinting", 'v'),
      ("show-all", 'A')]⟩ 1 fun o => do
    let any (letters : String) : Bool := letters.toList.any o.has
    let style : LineStyle :=
      ⟨any "nb", o.has 'b', o.has 's', any "EAe", any "TAt", any "vAet"⟩
    if style.isPlain then
      let paths := if o.operands.isEmpty then ["-"] else o.operands
      paths.foldlM (fun status path => do
        match ← contentOf path with
        | .ok (text, endless) =>
          say text
          if endless then throw .stuck else return status
        | .error e =>
          complain (ordinary "cat" path e)
          return 1) 0
    else filter "cat" o.operands fun text => String.join (style.shown 1 false (linesOf text))

def tac : Utility :=
  withOptions "tac" {} 1 fun o =>
    filter "tac" o.operands fun text => String.join (linesOf text).reverse

def reversed (line : String) : String :=
  String.ofList (withoutEnd line).toList.reverse ++ if line.endsWith "\n" then "\n" else ""

def rev : Utility :=
  withOptions "rev" {} 1 fun o =>
    filter "rev" o.operands fun text => String.join ((linesOf text).map reversed)

def count? (text : String) : Option Nat :=
  match text.toList.span Char.isDigit with
  | (ds, unit) =>
    match (String.ofList ds).toNat?, unit with
    | some n, [] => some n
    | some n, ['b'] => some (n * 512)
    | some n, ['k'] | some n, ['K'] => some (n * 1024)
    | _, _ => none

/-- The lines or bytes that `head` and `tail` are about. -/
inductive Extent where
  | lines (n : Nat)
  | bytes (n : Nat)

def withOldCount (arguments : List String) : List String :=
  match arguments with
  | a :: rest =>
    match a.toList with
    | '-' :: c :: cs =>
      if c.isDigit && cs.all Char.isDigit then "-n" :: String.ofList (c :: cs) :: rest else arguments
    | _ => arguments
  | [] => []

/-- Shows a part of each input, under its name if there are several. -/
def parts (name : String) (o : Options) (part : String → String) : Run Nat := do
  let i ← inputs o.operands 1 fun path e =>
    match e with
    | .isADirectory => name ++ ": error reading " ++ quoted path ++ ": " ++ plainReason e
    | e => name ++ ": cannot open " ++ quoted path ++ " for reading: " ++ plainReason e
  let titled := (o.operands.length > 1 || o.has 'v') && !o.has 'q'
  let shown := (i.found.zipIdx).map fun (x, k) =>
    let shownName := if x.name = "-" then "standard input" else x.name
    (if titled then (if k = 0 then "" else "\n") ++ "==> " ++ shownName ++ " <==\n" else "") ++
      part x.text
  say (String.join shown)
  return i.status

/-- Shows the front of its only input, and leaves the rest of it unread. -/
def frontOfInput (cut : String → Nat) : Run Nat := do
  let (text, endless) ← takeAll 0
  let n := cut text
  say (String.ofList (text.toList.take n))
  match ← channelOf 0 with
  | some (_, .file _ _ _) => putBack 0 (String.ofList (text.toList.drop n))
  | _ => pure ()
  if endless && text.length ≤ n then throw .stuck else return 0

def lengthOfLines (n : Nat) (text : String) : Nat :=
  ((linesOf text).take n).foldl (fun k line => k + line.length) 0

def head (arguments : List String) : Run Nat :=
  withOptions "head" ⟨"qvz".toList, "nc".toList, [("lines", 'n'), ("bytes", 'c'), ("quiet", 'q'),
      ("silent", 'q'), ("verbose", 'v')]⟩ 1 (fun o => do
    let letter := (o.last? ['n', 'c']).getD 'n'
    let text := (o.value? letter).getD "10"
    let (butLast, digits) := match text.toList with
      | '-' :: ds => (true, String.ofList ds)
      | '+' :: ds => (false, String.ofList ds)
      | _ => (false, text)
    match count? digits with
    | none =>
      let kind := if letter = 'n' then "lines" else "bytes"
      complain ("head: invalid number of " ++ kind ++ ": " ++ quoted text)
      return 1
    | some n =>
      let size (text : String) : Nat :=
        if letter = 'n' then
          let n := if butLast then (linesOf text).length - n else n
          lengthOfLines n text
        else if butLast then text.length - n else n
      if o.operands.isEmpty && !o.has 'v' then frontOfInput size
      else parts "head" o fun text => String.ofList (text.toList.take (size text)))
    (withOldCount arguments)

/-- What is wrong with a count as the first argument of `tail`, as in `-3x` or before two files. -/
def oldCountFault? : List String → Option String
  | a :: rest =>
    match a.toList with
    | '-' :: c :: cs =>
      let isOld := c.isDigit && ((c :: cs).any (!·.isDigit) || 1 < rest.length)
      if isOld then
        some ("option used in invalid context -- " ++ c.toString)
      else none
    | _ => none
  | [] => none

def tailPart (o : Options) : Run Nat := do
  let letter := (o.last? ['n', 'c']).getD 'n'
  let text := (o.value? letter).getD "10"
  let (fromStart, digits) := match text.toList with
    | '+' :: ds => (true, String.ofList ds)
    | '-' :: ds => (false, String.ofList ds)
    | _ => (false, text)
  match count? digits with
  | none =>
    let kind := if letter = 'n' then "lines" else "bytes"
    complain ("tail: invalid number of " ++ kind ++ ": " ++ quoted text)
    return 1
  | some n =>
    let part (text : String) : String :=
      if letter = 'n' then
        let lines := linesOf text
        String.join (lines.drop (if fromStart then n - 1 else lines.length - n))
      else
        let cs := text.toList
        String.ofList (cs.drop (if fromStart then n - 1 else cs.length - n))
    let status ← parts "tail" o part
    if o.has 'f' || o.has 'F' then throw .stuck else return status

def tail (arguments : List String) : Run Nat := do
  match oldCountFault? arguments with
  | some text =>
    complain ("tail: " ++ text)
    return 1
  | none =>
    let arguments := match withOldCount arguments with
      | a :: rest =>
        match a.toList with
        | '+' :: c :: cs =>
          if c.isDigit then "-n" :: String.ofList ('+' :: c :: cs) :: rest else a :: rest
        | _ => a :: rest
      | [] => []
    withOptions "tail" ⟨"qvfF".toList, "nc".toList, [("lines", 'n'), ("bytes", 'c'), ("quiet", 'q'),
        ("silent", 'q'), ("verbose", 'v'), ("follow", 'f')]⟩ 1 tailPart arguments

/-- Numbers lines; empty ones only if all are numbered. -/
def numbered (all : Bool) : Nat → List String → List String
  | _, [] => []
  | k, line :: rest =>
    if all || withoutEnd line ≠ "" then
      (padLeft 6 (toString k) ++ "\t" ++ line) :: numbered all (k + 1) rest
    else ("       " ++ line) :: numbered all k rest

def nl : Utility :=
  withOptions "nl" ⟨[], "bws".toList, []⟩ 1 fun o =>
    filter "nl" o.operands fun text =>
      String.join (numbered (o.value? 'b' = some "a") 1 (linesOf text))

def tee : Utility :=
  withOptions "tee" ⟨"ai".toList, [], [("append", 'a')]⟩ 1 fun o => do
    let (text, endless) ← takeAll 0
    say text
    let status ← o.operands.foldlM (fun status path => do
      match ← openFile path (if o.has 'a' then .append else .output) with
      | .ok number =>
        let p ← process
        setStream 1000 number
        put 1000 text
        change fun q => { q with streams := p.streams }
        return status
      | .error e =>
        complain (ordinary "tee" path e)
        return 1) 0
    if endless then throw .stuck else return status

end Scriptwright.Shell.Utility
