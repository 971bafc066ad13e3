import Scriptwright.Shell.Format
import Scriptwright.Shell.Glob
import Scriptwright.Shell.Utility.Basic

/-!
Programs on the columns and characters of lines.
-/
namespace Scriptwright.Shell.Utility

/-- A range of positions, from one; without an end it goes on. -/
structure Range where
  low : Nat
  high : Option Nat

def Range.has (n : Nat) (r : Range) : Bool := r.low ≤ n && r.high.all (n ≤ ·)

inductive RangeFault where
  | value (text : String)
  | form
  | endless
  | zero
  | decreasing

def RangeFault.message (fields : Bool) : RangeFault → String
  | .value text =>
    (if fields then "invalid field value " else "invalid byte/character position ") ++ quoted text
  | .form => if fields then "invalid field range" else "invalid byte or character range"
  | .endless => "invalid range with no endpoint: -"
  | .zero => (if fields then "fields" else "byte/character positions") ++ " are numbered from 1"
  | .decreasing => "invalid decreasing range"

def rangeOf (piece : List Char) : Except RangeFault Range := do
  match piece.dropWhile fun c => c.isDigit || c = '-' with
  | [] => pure ()
  | rest => throw (.value (String.ofList rest))
  match (Text.splitAt (· == '-') piece).map String.ofList with
  | [n] =>
    match n.toNat? with
    | some (n + 1) => return ⟨n + 1, some (n + 1)⟩
    | _ => throw .zero
  | [low, high] =>
    match low.toNat?, high.toNat? with
    | some 0, _ => throw .zero
    | some low, some high => if high < low then throw .decreasing else return ⟨low, some high⟩
    | some low, none => return ⟨low, none⟩
    | none, some high => if high = 0 then throw .decreasing else return ⟨1, some high⟩
    | none, none => throw .endless
  | _ => throw .form

def rangesOf (text : String) : Except RangeFault (List Range) :=
  (Text.splitAt (fun c => c == ',' || isBlank c) text.toList).mapM rangeOf

def chosen {α : Type} (complement : Bool) (ranges : List Range) (items : List α) : List α :=
  ((items.zipIdx 1).filter fun (_, n) => ranges.any (·.has n) != complement).map Prod.fst

/-- Runs of positions that are chosen, for a delimiter between them. -/
def chosenRuns {α : Type} (complement : Bool) (ranges : List Range) (items : List α) :
    List (List α) :=
  let marked := (items.zipIdx 1).map fun (a, n) => (ranges.any (·.has n) != complement, a)
  (marked.foldr (fun (keep, a) (runs : List (List α) × Bool) =>
    match keep, runs with
    | true, (run :: rest, true) => ((a :: run) :: rest, true)
    | true, (rest, _) => ([a] :: rest, true)
    | false, (rest, _) => (rest, false)) ([], false)).1

def cutFailure (text : String) : Run Nat := misused "cut" text 1

def cut : Utility :=
  withOptions "cut" ⟨"sn\x01".toList, "bcfdO".toList, [("bytes", 'b'), ("characters", 'c'),
      ("fields", 'f'), ("delimiter", 'd'), ("only-delimited", 's'), ("complement", '\x01'),
      ("output-delimiter", 'O')]⟩ 1 fun o => do
    match o.last? ['b', 'c', 'f'] with
    | none => cutFailure "you must specify a list of bytes, characters, or fields"
    | some letter =>
      let text := (o.value? letter).getD ""
      match rangesOf text with
      | .error f => cutFailure (f.message (letter = 'f'))
      | .ok ranges =>
        let complement := o.has '\x01'
        let d := (o.value? 'd').getD "\t"
        if letter = 'f' && d.length > 1 then
          cutFailure "the delimiter must be a single character"
        else if letter ≠ 'f' && (o.value? 'd').isSome then
          cutFailure "an input delimiter may be specified only when operating on fields"
        else
          let c := (d.toList.head?).getD '\x00'
          let out := (o.value? 'O').getD d
          let line (l : String) : List String :=
            let cs := l.toList
            if letter = 'f' then
              if cs.contains c then
                let fields := (Text.splitAt (· == c) cs).map String.ofList
                [Text.joinWith out (chosen complement ranges fields)]
              else if o.has 's' then [] else [l]
            else
              match o.value? 'O' with
              | some out =>
                [Text.joinWith out ((chosenRuns complement ranges cs).map String.ofList)]
              | none => [String.ofList (chosen complement ranges cs)]
          filter "cut" o.operands fun text => unlines ((plainLines text).flatMap line)

/-- The characters that a set of `tr` stands for; `fill` marks a character that is repeated as often
as needed. -/
structure CharList where
  chars : List Char
  fill : Option (Nat × Char) := none

def allChars : List Char := (List.range 256).map Char.ofNat

/-- A character of a set, which may be written as an escape. -/
def setChar (cs : List Char) : Option (Char × List Char) :=
  match cs with
  | [] => none
  | '\\' :: c :: rest =>
    let (found, rest) := Format.escape (c :: rest)
    match found with
    | [e] => some (e, rest)
    | _ => some (c, rest.drop 1)
  | c :: rest => some (c, rest)

def charList : Nat → List Char → CharList
  | 0, _ => ⟨[], none⟩
  | fuel + 1, cs =>
    let add (found : List Char) (rest : List Char) : CharList :=
      let more := charList fuel rest
      ⟨found ++ more.chars, more.fill.map fun (n, c) => (n + found.length, c)⟩
    match cs with
    | [] => ⟨[], none⟩
    | '[' :: ':' :: rest =>
      match rest.span Char.isAlpha with
      | (name, ':' :: ']' :: rest) =>
        add (allChars.filter (inNamedClass (String.ofList name))) rest
      | _ => add ['['] (':' :: rest)
    | '[' :: c :: '*' :: rest =>
      match rest.span Char.isDigit with
      | ([], ']' :: rest) =>
        let more := charList fuel rest
        ⟨more.chars, some (0, c)⟩
      | (ds, ']' :: rest) => add (List.replicate ((String.ofList ds).toNat?.getD 0) c) rest
      | _ => add ['['] (c :: '*' :: rest)
    | cs =>
      match setChar cs with
      | none => ⟨[], none⟩
      | some (a, '-' :: rest) =>
        match setChar rest with
        | some (b, rest) =>
          add ((List.range (b.toNat + 1 - a.toNat)).map fun k => Char.ofNat (a.toNat + k)) rest
        | none => add [a] ['-']
      | some (a, rest) => add [a] rest

def charsOf (text : String) : CharList := charList (text.length + 1) text.toList

def stretched (target : CharList) (length : Nat) : List Char :=
  match target.fill with
  | some (n, c) =>
    target.chars.take n ++ List.replicate (length - target.chars.length) c ++ target.chars.drop n
  | none =>
    match target.chars.getLast? with
    | some c => target.chars ++ List.replicate (length - target.chars.length) c
    | none => []

def squeezed (set : List Char) : Option Char → List Char → List Char
  | _, [] => []
  | last, c :: cs =>
    if last = some c && set.contains c then squeezed set last cs
    else c :: squeezed set (some c) cs

/-- The place of a character in a list, the last one if it is there more than once. -/
def lastPlace? (c : Char) (cs : List Char) : Option Nat :=
  (cs.reverse.idxOf? c).map fun k => cs.length - 1 - k

def tr : Utility :=
  withOptions "tr" ⟨"cCdst".toList, [], [("complement", 'c'), ("delete", 'd'),
      ("squeeze-repeats", 's'), ("truncate-set1", 't')]⟩ 1 fun o => do
    let usage (text : List String) : Run Nat := do
      for line in text do complain line
      complain "Try 'tr --help' for more information."
      return 1
    let deletes := o.has 'd'
    let squeezes := o.has 's'
    match o.operands with
    | [] => usage ["tr: missing operand"]
    | first :: rest =>
      let chars := (charsOf first).chars
      let source := if o.has 'c' || o.has 'C' then allChars.filter (!chars.contains ·) else chars
      match rest with
      | [] =>
        if deletes && squeezes then
          usage ["tr: missing operand after '" ++ first ++ "'",
            "Two strings must be given when both deleting and squeezing repeats."]
        else if deletes then filterText fun cs => cs.filter (!source.contains ·)
        else if squeezes then filterText (squeezed source none)
        else
          usage ["tr: missing operand after '" ++ first ++ "'",
            "Two strings must be given when translating."]
      | second :: extra =>
        match extra with
        | e :: _ => usage ["tr: extra operand '" ++ e ++ "'"]
        | [] =>
          if deletes && !squeezes then
            usage ["tr: extra operand '" ++ second ++ "'",
              "Only one string may be given when deleting without squeezing repeats."]
          else if deletes then
            filterText fun cs =>
              squeezed (charsOf second).chars none (cs.filter (!source.contains ·))
          else
            let target := if o.has 't' then (charsOf second).chars
              else stretched (charsOf second) source.length
            if second = "" && !o.has 't' then
              complain "tr: when not truncating set1, string2 must be non-empty"
              return 1
            let map (c : Char) : Char :=
              match lastPlace? c source with
              | some k => (target[k]?).getD c
              | none => c
            filterText fun cs =>
              let mapped := cs.map map
              if squeezes then squeezed target none mapped else mapped
where
  filterText (make : List Char → List Char) : Run Nat := do
    let (text, endless) ← takeAll 0
    say (String.ofList (make text.toList))
    if endless then throw .stuck else return 0

def sideBySide : Nat → List (List String) → List (List String)
  | 0, _ => []
  | fuel + 1, columns =>
    if columns.all (·.isEmpty) then []
    else columns.map (·.headD "") :: sideBySide fuel (columns.map (·.drop 1))

def joinedInTurn (delimiters : List Char) (texts : List String) : String :=
  match texts with
  | [] => ""
  | first :: rest =>
    first ++ String.join ((rest.zipIdx).map fun (t, k) =>
      match delimiters[k % max 1 delimiters.length]? with
      | some d => d.toString ++ t
      | none => t)

def paste : Utility :=
  withOptions "paste" ⟨"s".toList, "d".toList, [("serial", 's'), ("delimiters", 'd')]⟩ 1 fun o => do
    let text := ((o.value? 'd').getD "\t").toList
    let delimiters := (Format.unescaped (text.length + 1) text).1
    let paths := if o.operands.isEmpty then ["-"] else o.operands
    let dashes := (paths.filter (· = "-")).length
    let i ← inputs paths 1 (ordinary "paste")
    let own := (i.found.filter fun x => x.name = "-").flatMap fun x => (plainLines x.text).zipIdx
    let (columns, _) := i.found.foldl (fun (done, turn) x =>
      if x.name = "-" && 1 < dashes then
        (done ++ [(own.filter fun (_, n) => n % dashes = turn).map Prod.fst], turn + 1)
      else (done ++ [plainLines x.text], turn)) (([], 0) : List (List String) × Nat)
    if o.has 's' then say (unlines (columns.map (joinedInTurn delimiters)))
    else
      let height := columns.foldl (fun n c => max n c.length) 0
      say (unlines ((sideBySide height columns).map (joinedInTurn delimiters)))
    ended i i.status

/-- Pieces of a line that are no longer than the width. -/
def folded (width : Nat) (atBlanks : Bool) : Nat → List Char → List (List Char)
  | 0, cs => [cs]
  | fuel + 1, cs =>
    if cs.length ≤ width || width = 0 then [cs]
    else
      let piece := cs.take width
      let kept := if atBlanks then (piece.reverse.dropWhile (!isBlank ·)).reverse else piece
      let piece := if kept.isEmpty then piece else kept
      piece :: folded width atBlanks fuel (cs.drop piece.length)

def fold : Utility :=
  withOptions "fold" ⟨"bs".toList, "w".toList, [("width", 'w'), ("spaces", 's')]⟩ 1 fun o =>
    let width := ((o.value? 'w').bind (·.toNat?)).getD 80
    filter "fold" o.operands fun text =>
      String.join ((linesOf text).map fun line =>
        let pieces := folded width (o.has 's') line.length (withoutEnd line).toList
        Text.joinWith "\n" (pieces.map String.ofList) ++ if line.endsWith "\n" then "\n" else "")

def expanded (width : Nat) : Nat → List Char → List Char
  | _, [] => []
  | column, '\t' :: cs =>
    let n := width - column % width
    List.replicate n ' ' ++ expanded width (column + n) cs
  | column, c :: cs => c :: expanded width (if c = '\n' then 0 else column + 1) cs

def expandTabs : Utility :=
  withOptions "expand" ⟨"i".toList, "t".toList, [("tabs", 't')]⟩ 1 fun o =>
    let width := max 1 (((o.value? 't').bind (·.toNat?)).getD 8)
    filter "expand" o.operands fun text => String.ofList (expanded width 0 text.toList)

end Scriptwright.Shell.Utility
