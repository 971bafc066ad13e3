import Scriptwright.Shell.Glob
import Scriptwright.Shell.Process

/-!
What words come to: fragments of text, then fields, which are cut at separators where the text is the
result of an expansion outside quotes, and then names of files where a field is a pattern.
-/
namespace Scriptwright.Shell

inductive Fragment where
  /-- Text that is never cut. -/
  | literal (quoted : Bool) (text : String)
  /-- A result outside quotes. -/
  | result (text : String)
  /-- The gap between two positional parameters. -/
  | gap

namespace Fragment

def text : Fragment → String
  | .literal _ s | .result s => s
  | .gap => " "

def marks : Fragment → List Marked
  | .literal quoted s => s.toList.map (quoted, ·)
  | .result s => s.toList.map (false, ·)
  | .gap => [(true, ' ')]

def loose : Fragment → Fragment
  | .literal false s => .result s
  | f => f

end Fragment

def joinedText (fs : List Fragment) : String := String.join (fs.map (·.text))

def joinedMarks (fs : List Fragment) : List Marked := fs.flatMap (·.marks)

/-- Fields while they are cut: those done (the last one first), the one that grows (reversed), and
whether blanks ended the last one, so that one more separator belongs to them. -/
structure Cutting where
  done : List (List Marked) := []
  growing : Option (List Marked) := none
  afterBlank : Bool := false

namespace Cutting

def close (c : Cutting) (afterBlank : Bool) : Cutting :=
  match c.growing with
  | some f => ⟨f.reverse :: c.done, none, afterBlank⟩
  | none => { c with afterBlank }

def grow (c : Cutting) (m : List Marked) : Cutting :=
  ⟨c.done, some (m.reverse ++ c.growing.getD []), false⟩

def addChar (separators : List Char) (c : Cutting) (d : Char) : Cutting :=
  if !separators.contains d then c.grow [(false, d)]
  else if isBlank d || d = '\n' then
    match c.growing with
    | some _ => c.close true
    | none => c
  else
    match c.growing with
    | some _ => c.close false
    | none => if c.afterBlank then { c with afterBlank := false } else { c with done := [] :: c.done }

def add (separators : List Char) (c : Cutting) : Fragment → Cutting
  | .literal quoted s => if quoted || s ≠ "" then c.grow (s.toList.map (quoted, ·)) else c
  | .result s => s.toList.foldl (addChar separators) c
  | .gap => c.close false

end Cutting

def fieldsOf (separators : List Char) (fs : List Fragment) : List (List Marked) :=
  ((fs.foldl (Cutting.add separators) {}).close false).done.reverse

def namesAt (files : FileTree) (place : Location) : List String :=
  let found := files.nodes.filterMap fun (loc, _) =>
    if loc ≠ Location.root ∧ Location.outer loc = place then some (ofText (Location.name loc)) else none
  Text.ascending found.eraseDups

def stepsOf : Nat → List Marked → List (List Marked × Nat)
  | 0, _ => []
  | fuel + 1, cs =>
    match cs with
    | [] => []
    | cs =>
      let (step, rest) := cs.span fun m => m.2 != '/'
      let (slashes, rest) := rest.span fun m => m.2 == '/'
      (step, slashes.length) :: stepsOf fuel rest

def pathsFrom (files : FileTree) : List (List Marked × Nat) → String → List String
  | [], done => [done]
  | (step, slashes) :: rest, done =>
    let after (name : String) : List String :=
      let way := done ++ name ++ String.ofList (List.replicate slashes '/')
      if slashes ≠ 0 && !files.isDirectory (toText way) then [] else pathsFrom files rest way
    if hasGlob step then
      let items := globOf step
      let hidden := step.head?.any fun m => m.2 == '.'
      match files.locate (if done = "" then "." else toText done) with
      | .ok place =>
        ((namesAt files place).filter fun name =>
          globMatches items name.toList && (hidden || !name.startsWith ".")).flatMap after
      | .error _ => []
    else
      let name := String.ofList (step.map Prod.snd)
      if rest.isEmpty && slashes = 0 && !files.contains (toText (done ++ name)) then []
      else after name

/-- The words that a field stands for: the files that it matches, or itself. -/
def wordsOf (files : FileTree) (globs : Bool) (field : List Marked) : List String :=
  let plain := String.ofList (field.map Prod.snd)
  if globs && hasGlob field then
    match pathsFrom files (stepsOf (field.length + 1) field) "" with
    | [] => [plain]
    | found => found
  else [plain]

end Scriptwright.Shell
