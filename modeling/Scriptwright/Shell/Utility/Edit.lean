import Scriptwright.Shell.Utility.Count
import Scriptwright.Shell.Utility.Edit.Instruction

/-!
Editing lines by a script that runs once for each of them.
-/
namespace Scriptwright.Shell.Utility.Edit

/-- A line of the input, the file it is from, and whether an end of line stands behind it. -/
structure InputLine where
  text : List Char
  ended : Bool
  file : String

structure Written where
  file : Option String
  text : String

structure Desk where
  /-- The line that is edited, and the one kept beside it. -/
  line : List Char := []
  kept : List Char := []
  ended : Bool := true
  number : Nat := 0
  file : String := "-"
  input : List InputLine := []
  written : List Written := []
  /-- The last line of the output still lacks its end. -/
  owesEnd : Bool := false
  /-- What is written when the line is done; nothing marks a file to be read. -/
  later : List (Bool × String) := []
  substituted : Bool := false
  /-- Ranges that have begun: the instruction, and the line at which it ends if that is known. -/
  ranges : List (Nat × Option Nat) := []
  lastRegex : Option Pattern := none
  failed : Bool := false

inductive Turn where
  | shown
  | dropped
  /-- The script starts again on what is left of the line. -/
  | again
  | quit (status : Nat) (shows : Bool)
  | endless

/-- The script, whether lines are shown only when asked for, and what files hold. -/
structure Task where
  script : Array Instruction
  silent : Bool
  content : String → Option String

abbrev Editing := StateM Desk

def write (text : String) : Editing Unit := modify fun d =>
  let opening := if d.owesEnd then "\n" else ""
  { d with written := ⟨none, opening ++ text⟩ :: d.written, owesEnd := false }

def showLine (cs : List Char) : Editing Unit := do
  let d ← get
  write (String.ofList cs ++ if d.ended then "\n" else "")
  if !d.ended then modify fun d => { d with owesEnd := true }

def flushLater (j : Task) : Editing Unit := do
  for (isFile, text) in (← get).later do
    if isFile then
      match j.content text with
      | some content => if content ≠ "" then write content
      | none => pure ()
    else write text
  modify fun d => { d with later := [] }

def advance (j : Task) : Editing Bool := do
  flushLater j
  let d ← get
  match d.input with
  | [] => return false
  | next :: rest =>
    set { d with line := next.text, ended := next.ended, file := next.file, number := d.number + 1,
                 input := rest, substituted := false }
    return true

/-- The expression of a pattern; an empty one stands for the last one used. -/
def regexOf (p : Pattern) : Editing (Option Pattern) := do
  match p.regex with
  | some _ =>
    modify fun d => { d with lastRegex := some p }
    return some p
  | none =>
    let d ← get
    if d.lastRegex.isNone then set { d with failed := true }
    return d.lastRegex

def matchesAddress (a : Address) : Editing Bool := do
  let d ← get
  match a with
  | .line n => return d.number = n
  | .every first step =>
    return if step = 0 then decide (d.number = first)
      else decide (first ≤ d.number) && (d.number - first) % step = 0
  | .last => return d.input.isEmpty
  | .matching p =>
    match ← regexOf p with
    | some ⟨some r, folds⟩ => return (r.find? ⟨d.line.toArray, folds⟩ 0).isSome
    | _ => return false

def applies (index : Nat) (p : Place) : Editing Bool := do
  let found ← match p.first, p.finish with
    | none, _ => pure true
    | some a, none => matchesAddress a
    | some a, some finish => inRange a finish
  return found != p.negated
where
  setRange (state : Option (Option Nat)) : Editing Unit := modify fun d =>
    let others := d.ranges.filter (·.1 ≠ index)
    { d with ranges := match state with
        | some last => (index, last) :: others
        | none => others }
  inRange (a : Address) (finish : Finish) : Editing Bool := do
    let d ← get
    match d.ranges.lookup index with
    | some (some last) =>
      if last ≤ d.number then setRange none
      if last < d.number then matchesAddress a else return true
    | some none =>
      match finish with
      | .address e => if ← matchesAddress e then setRange none
      | _ => pure ()
      return true
    | none =>
      let startsBefore := match a with
        | .line 0 => decide (d.number = 1)
        | _ => false
      if startsBefore then
        match finish with
        | .address e => if !(← matchesAddress e) then setRange (some none)
        | _ => pure ()
        return true
      else if ← matchesAddress a then
        match finish with
        | .address (.line n) => if d.number < n then setRange (some (some n))
        | .address _ => setRange (some none)
        | .further n => if n ≠ 0 then setRange (some (some (d.number + n)))
        | .multiple n =>
          if n ≠ 0 && d.number % n ≠ 0 then setRange (some (some (d.number + n - d.number % n)))
        return true
      else return false

/-- The text that replaces a match; changes of case reach on to the pieces that follow. -/
def replacement (t : Regex.Subject) (m : Regex.Match) : CaseChange → CaseChange → List Piece →
    List Char
  | _, _, [] => []
  | run, once, piece :: rest =>
    match piece with
    | .case c =>
      match c with
      | .nextUpper | .nextLower => replacement t m run c rest
      | c => replacement t m c .none rest
    | .char c => cased run once [c] ++ replacement t m run .none rest
    | .group n =>
      let found := if n = 0 then t.slice m.start m.finish
        else match m.groups.lookup n with
          | some (low, high) => t.slice low high
          | none => []
      cased run once found ++ replacement t m run (if found.isEmpty then once else .none) rest
where
  cased (run once : CaseChange) (cs : List Char) : List Char :=
    let cs := match run with
      | .upper => cs.map Char.toUpper
      | .lower => cs.map Char.toLower
      | _ => cs
    match once, cs with
    | .nextUpper, c :: cs => c.toUpper :: cs
    | .nextLower, c :: cs => c.toLower :: cs
    | _, cs => cs

def replaced (t : Regex.Subject) (pieces : List Piece) : Nat → List Regex.Match → List Char
  | start, [] => t.slice start t.chars.size
  | start, m :: rest =>
    t.slice start m.start ++ replacement t m .none .none pieces ++ replaced t pieces m.finish rest

def substitute (s : Substitution) : Editing Unit := do
  match ← regexOf s.pattern with
  | some ⟨some r, folds⟩ =>
    let d ← get
    let t : Regex.Subject := ⟨d.line.toArray, folds || s.pattern.folds⟩
    let all := (r.findAll t (d.line.length + 2) 0 none).drop (s.number - 1)
    let ms := if s.all then all else all.take 1
    if !ms.isEmpty then
      modify fun d => { d with line := replaced t s.pieces 0 ms, substituted := true }
      if s.prints then showLine (← get).line
      match s.file with
      | some path => modify fun d =>
          { d with written := ⟨some path, String.ofList d.line ++ "\n"⟩ :: d.written }
      | none => pure ()
  | _ => pure ()

def spelled (cs : List Char) : List (List Char) :=
  cs.map fun c =>
    match [('\\', '\\'), ('\x07', 'a'), ('\x08', 'b'), ('\x0c', 'f'), ('\n', 'n'), ('\r', 'r'),
        ('\t', 't'), ('\x0b', 'v')].lookup c with
    | some e => ['\\', e]
    | none =>
      if ' ' ≤ c && c ≤ '~' then [c]
      else
        let digit (n : Nat) : Char := Char.ofNat ('0'.toNat + n % 8)
        ['\\', digit (c.toNat / 64), digit (c.toNat / 8), digit c.toNat]

def spelledRows (width : Nat) : List (List Char) → List Char → List Char
  | [], row => row ++ ['$']
  | s :: rest, row =>
    if row.length + s.length > width then row ++ ['\\', '\n'] ++ spelledRows width rest s
    else spelledRows width rest (row ++ s)

def behindBlock (script : Array Instruction) : Nat → Nat → Nat → Nat
  | 0, index, _ => index
  | fuel + 1, index, depth =>
    match script[index]? with
    | none => index
    | some i =>
      match i.action with
      | .opening => behindBlock script fuel (index + 1) (depth + 1)
      | .closing => if depth = 0 then index + 1 else behindBlock script fuel (index + 1) (depth - 1)
      | _ => behindBlock script fuel (index + 1) depth

def labelIndex (script : Array Instruction) (name : String) : Nat :=
  (script.findIdx? fun i => match i.action with
    | .label l => l = name
    | _ => false).getD script.size

/-- What an action without more to it does; nothing if the script just goes on. -/
def plainAction (j : Task) (letter : Char) : Editing (Option Turn) := do
  let d ← get
  match letter with
  | 'd' => return some .dropped
  | 'D' =>
    match d.line.dropWhile (· != '\n') with
    | [] => return some .dropped
    | _ :: rest =>
      set { d with line := rest }
      return some .again
  | 'g' => set { d with line := d.kept }
  | 'G' => set { d with line := d.line ++ '\n' :: d.kept }
  | 'h' => set { d with kept := d.line }
  | 'H' => set { d with kept := d.kept ++ '\n' :: d.line }
  | 'x' => set { d with line := d.kept, kept := d.line }
  | 'z' => set { d with line := [] }
  | '=' => write (toString d.number ++ "\n")
  | 'F' => write (d.file ++ "\n")
  | 'l' => write (String.ofList (spelledRows 69 (spelled d.line) []) ++ "\n")
  | 'p' => showLine d.line
  | 'P' => write (String.ofList (d.line.takeWhile (· != '\n')) ++ "\n")
  | 'n' =>
    if d.input.isEmpty then return some (.quit 0 true)
    if !j.silent then showLine d.line
    let flag := d.substituted
    let _ ← advance j
    modify fun d => { d with substituted := flag }
  | 'N' =>
    if d.input.isEmpty then return some (.quit 0 true)
    let flag := d.substituted
    let _ ← advance j
    modify fun e => { e with line := d.line ++ '\n' :: e.line, substituted := flag }
  | _ => pure ()
  return none

def runFrom (j : Task) : Nat → Nat → Editing Turn
  | 0, _ => return .endless
  | fuel + 1, index => do
    match j.script[index]? with
    | none => return .shown
    | some i =>
      if !(← applies index i.place) then
        match i.action with
        | .opening => runFrom j fuel (behindBlock j.script (j.script.size + 1) (index + 1) 0)
        | _ => runFrom j fuel (index + 1)
      else
        let further := runFrom j fuel (index + 1)
        match i.action with
        | .opening | .closing | .label _ => further
        | .jump name => runFrom j fuel (labelIndex j.script name)
        | .jumpIf name =>
          if (← get).substituted then
            modify fun d => { d with substituted := false }
            runFrom j fuel (labelIndex j.script name)
          else further
        | .jumpUnless name =>
          if (← get).substituted then
            modify fun d => { d with substituted := false }
            further
          else runFrom j fuel (labelIndex j.script name)
        | .append text =>
          modify fun d => { d with later := d.later ++ [(false, text)] }
          further
        | .readFile path =>
          modify fun d => { d with later := d.later ++ [(true, path)] }
          further
        | .insert text =>
          write text
          further
        | .change text =>
          let goesOn := i.place.finish.isSome && !i.place.negated &&
            ((← get).ranges.lookup index).isSome
          if !goesOn then write text
          return .dropped
        | .substitute s =>
          substitute s
          further
        | .translate source target =>
          modify fun d => { d with line := d.line.map fun c =>
            ((source.idxOf? c).bind (target[·]?)).getD c }
          further
        | .quit status => return .quit status true
        | .quitSilently status => return .quit status false
        | .writeFile path =>
          modify fun d => { d with written := ⟨some path, String.ofList d.line ++ "\n"⟩ :: d.written }
          further
        | .plain letter =>
          match ← plainAction j letter with
          | some turn => return turn
          | none => further

/-- Runs the script for line after line, and gives a status unless it never ends. -/
def runLines (j : Task) (perLine : Nat) : Nat → Bool → Editing (Option Nat)
  | 0, _ => return none
  | fuel + 1, fresh => do
    if fresh then
      if !(← advance j) then return some 0
    match ← runFrom j perLine 0 with
    | .endless => return none
    | .shown =>
      if !j.silent then showLine (← get).line
      runLines j perLine fuel true
    | .dropped => runLines j perLine fuel true
    | .again =>
      flushLater j
      runLines j perLine fuel false
    | .quit status shows =>
      if shows && !j.silent then showLine (← get).line
      if shows then flushLater j
      return some status

end Scriptwright.Shell.Utility.Edit
