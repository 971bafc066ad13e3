import Scriptwright.Shell.Regex.Reading
import Scriptwright.Shell.Utility.Basic

/-!
Finding lines by patterns.
-/
namespace Scriptwright.Shell.Utility

structure Quest where
  pattern : Regex
  folds : Bool
  inverted : Bool

def Quest.subject (q : Quest) (line : String) : Regex.Subject :=
  ⟨line.toList.toArray, q.folds⟩

def Quest.finds (q : Quest) (line : String) : Bool :=
  (q.pattern.find? (q.subject line) 0).isSome != q.inverted

def Quest.found (q : Quest) (line : String) : List String :=
  let t := q.subject line
  let all := q.pattern.findAll t (line.length + 2) 0 none
  (all.filter fun m => m.start < m.finish).map fun m => String.ofList (t.slice m.start m.finish)

def patternOf (o : Options) (texts : List String) : Except Regex.Fault Regex := do
  let kind := (o.last? ['E', 'F', 'G', 'P']).getD 'G'
  let lines := texts.flatMap fun t => (Text.splitAt (· == '\n') t.toList).map String.ofList
  let rs ← lines.mapM fun line =>
    if kind = 'F' then .ok (Regex.ofText line) else Regex.read (kind = 'E' || kind = 'P') line
  let whole (r : Regex) : Regex :=
    if o.has 'x' then .seq .lineStart (.seq r .lineEnd)
    else if o.has 'w' then .seq .behindOther (.seq r .beforeOther)
    else r
  match rs.reverse with
  | [] => return .empty
  | last :: before => return whole (before.foldl (fun r one => .either one r) last)

def shownLines (before after : Nat) (hits : List Nat) : List Nat :=
  (hits.flatMap fun k => (List.range (before + after + 1)).filterMap fun d =>
    if before ≤ k + d then some (k + d - before) else none).eraseDups

structure HitStyle where
  label : Option String
  numbers : Bool
  parts : Bool
  before : Nat
  after : Nat

/-- The beginning of a shown line; a mark tells lines that match from others. -/
def HitStyle.opening (s : HitStyle) (number : Nat) (mark : String) : String :=
  (match s.label with
    | some name => name ++ mark
    | none => "") ++ if s.numbers then toString number ++ mark else ""

def HitStyle.around (s : HitStyle) (lines : Array String) (hits : List Nat) :
    Option Nat → List Nat → List String
  | _, [] => []
  | last, k :: rest =>
    let more := around s lines hits (some k) rest
    match lines[k]? with
    | none => more
    | some line =>
      let gap := last.any fun l => l + 1 < k
      let mark := if hits.contains k then ":" else "-"
      let shown := s.opening (k + 1) mark ++ withoutEnd line ++ "\n"
      (if gap && (s.before ≠ 0 || s.after ≠ 0) then ["--\n"] else []) ++ shown :: more

def HitStyle.text (s : HitStyle) (q : Quest) (lines : Array String) (hits : List Nat) : String :=
  if s.parts then
    String.join (hits.flatMap fun k =>
      if q.inverted then []
      else (q.found (withoutEnd ((lines[k]?).getD ""))).map fun part =>
        s.opening (k + 1) ":" ++ part ++ "\n")
  else
    let shown := shownLines s.before s.after hits
    String.join (s.around lines hits none (shown.mergeSort fun a b => decide (a ≤ b)))

def number (o : Options) (letters : List Char) : Nat :=
  match o.last? letters with
  | some letter => ((o.value? letter).bind (·.toNat?)).getD 0
  | none => 0

def filesBelow (files : FileTree) (path : String) : List String :=
  match files.locate (pathOf path) with
  | .error _ => []
  | .ok place =>
    let found := files.nodes.filterMap fun (loc, node) =>
      match node with
      | .file _ _ =>
        if place ≠ loc ∧ Location.isWithin place loc then
          let cut := if place = Location.root then 0 else place.length + 1
          some (ofText (String.ofList (loc.toList.drop cut)))
        else none
      | .directory => none
    let opening := if path.endsWith "/" then path else path ++ "/"
    (Text.ascending found).map (opening ++ ·)

/-- Shows what is found in one input; whether something was. -/
def searchOne (o : Options) (q : Quest) (label : Option String) (x : Input) : Run Bool := do
  if x.text.toList.contains '\x00' && !o.has 'a' && !o.has 'c' && !o.has 'q' && !o.has 'l' then
    let found := (plainLines x.text).any q.finds
    let name := if x.name = "-" then "(standard input)" else x.name
    if found then say ("grep: " ++ name ++ ": binary file matches\n")
    return found
  let lines := (linesOf x.text).toArray
  let all := (List.range lines.size).filter fun k => q.finds (withoutEnd ((lines[k]?).getD ""))
  let hits := match (o.value? 'm').bind (·.toNat?) with
    | some n => all.take n
    | none => all
  let name := if x.name = "-" then "(standard input)" else x.name
  let hit := !hits.isEmpty
  if o.has 'q' then return hit
  else if o.has 'l' then
    if hit then say (name ++ "\n")
    return hit
  else if o.has 'L' then
    if !hit then say (name ++ "\n")
    return hit
  else if o.has 'c' then
    say ((match label with
      | some l => l ++ ":"
      | none => "") ++ toString hits.length ++ "\n")
    return hit
  else
    let style : HitStyle :=
      ⟨label, o.has 'n', o.has 'o', number o ['B', 'C'], number o ['A', 'C']⟩
    say (style.text q lines hits)
    return hit

def searchAll (o : Options) (pattern : Regex) (operands : List String) : Run Nat := do
  let files ← filesHere
  let deep := o.has 'r' || o.has 'R'
  let operands := if operands.isEmpty && deep then ["."] else operands
  let paths := if deep then
      operands.flatMap fun p => if files.isDirectory (pathOf p) then filesBelow files p else [p]
    else operands
  let silent := o.has 's'
  let i ← inputs paths 2 fun path e => if silent then "" else "grep: " ++ path ++ ": " ++ plainReason e
  let labelled := match o.last? ['h', 'H'] with
    | some 'h' => false
    | some _ => true
    | none => paths.length > 1 || deep
  let q : Quest := ⟨pattern, o.has 'i' || o.has 'y', o.has 'v'⟩
  let found ← i.found.mapM fun x => do
    let name := if x.name = "-" then "(standard input)" else x.name
    searchOne o q (if labelled then some name else none) x
  let any := found.any id
  let status := if any && (o.has 'q' || i.status = 0) then 0 else if i.status ≠ 0 then 2
    else if any then 0 else 1
  if i.endless && !(any && (o.has 'q' || o.has 'm')) then throw .stuck else return status

def grepUsage : List String :=
  ["Usage: grep [OPTION]... PATTERNS [FILE]...", "Try 'grep --help' for more information."]

def grepAs (first : List String) (arguments : List String) : Run Nat := do
  let accepted : Accepted := ⟨"ivcnqolLhHwxEFGPsaryRbUzT".toList, "efmABCd".toList,
    [("ignore-case", 'i'), ("invert-match", 'v'), ("count", 'c'), ("line-number", 'n'),
      ("quiet", 'q'), ("silent", 'q'), ("only-matching", 'o'), ("files-with-matches", 'l'),
      ("files-without-match", 'L'), ("no-filename", 'h'), ("with-filename", 'H'),
      ("word-regexp", 'w'), ("line-regexp", 'x'), ("extended-regexp", 'E'),
      ("fixed-strings", 'F'), ("basic-regexp", 'G'), ("no-messages", 's'), ("text", 'a'),
      ("recursive", 'r'), ("regexp", 'e'), ("file", 'f'), ("max-count", 'm'),
      ("after-context", 'A'), ("before-context", 'B'), ("context", 'C')]⟩
  match optionsOf accepted (arguments.length + 2) (first ++ arguments) with
  | .error f =>
    complain ("grep: " ++ f.message)
    for line in grepUsage do complain line
    return 2
  | .ok o =>
    let fromFiles ← (o.values 'f').mapM fun path => do
      match ← contentOf path with
      | .ok (text, _) => return some (plainLines text)
      | .error e =>
        complain ("grep: " ++ path ++ ": " ++ plainReason e)
        return none
    if fromFiles.any (·.isNone) then return 2
    let given := o.values 'e' ++ (fromFiles.filterMap id).flatten
    let named := o.has 'e' || o.has 'f'
    match named, o.operands with
    | false, [] =>
      for line in grepUsage do complain line
      return 2
    | _, operands =>
      let texts := if named then given else operands.take 1
      match patternOf o texts with
      | .error f =>
        complain ("grep: " ++ f.message (o.last? ['E', 'F', 'G', 'P'] = some 'E'))
        return 2
      | .ok pattern =>
        let pattern := if texts.isEmpty then .seq .lineStart (.set true []) else pattern
        searchAll o pattern (if named then operands else operands.drop 1)

def grep : Utility := grepAs []

def egrep : Utility := grepAs ["-E"]

def fgrep : Utility := grepAs ["-F"]

end Scriptwright.Shell.Utility
