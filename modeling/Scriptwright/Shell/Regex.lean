import Scriptwright.Shell.Glob

/-!
Regular expressions of the programs that search and edit text, in their basic and their extended
spelling. Of all matches at a place the longest counts.
-/
namespace Scriptwright.Shell

inductive Regex where
  | empty
  | set (complement : Bool) (members : List Members)
  | seq (first second : Regex)
  | either (one other : Regex)
  /-- At least `low` and at most `high` times. -/
  | repeated (r : Regex) (low : Nat) (high : Option Nat)
  | group (number : Nat) (r : Regex)
  /-- What a group has matched. -/
  | again (number : Nat)
  | lineStart
  | lineEnd
  | wordStart
  | wordEnd
  | wordEdge
  | noWordEdge
  /-- No word character stands in front. -/
  | behindOther
  /-- No word character follows. -/
  | beforeOther

namespace Regex

def isWordChar (c : Char) : Bool := c.isAlphanum || c = '_'

structure Spot where
  index : Nat
  groups : List (Nat × Nat × Nat) := []

structure Subject where
  chars : Array Char
  folds : Bool := false

namespace Subject

def wordBefore (t : Subject) (i : Nat) : Bool := i ≠ 0 && (t.chars[i - 1]?).any isWordChar

def wordAt (t : Subject) (i : Nat) : Bool := (t.chars[i]?).any isWordChar

def accepts (t : Subject) (complement : Bool) (members : List Members) (c : Char) : Bool :=
  let has (c : Char) : Bool := members.any (·.has c)
  (if t.folds then has c || has c.toLower || has c.toUpper else has c) != complement

def slice (t : Subject) (low high : Nat) : List Char := (t.chars.extract low high).toList

def same (t : Subject) (a b : List Char) : Bool :=
  if t.folds then a.map Char.toLower == b.map Char.toLower else a == b

end Subject

def stay (holds : Bool) (s : Spot) : List Spot := if holds then [s] else []

/-- Repeats a step that goes on; the ways that repeat it more often come first. -/
def times (one : Spot → List Spot) : Nat → Nat → Option Nat → Spot → List Spot
  | 0, low, _, s => stay (low = 0) s
  | fuel + 1, low, high, s =>
    if high = some 0 then [s]
    else
      let further := (one s).filter fun t => s.index < t.index || low ≠ 0
      let longer := further.flatMap fun t =>
        if t.index = s.index then stay (low ≤ 1) t
        else times one fuel (low - 1) (high.map (· - 1)) t
      longer ++ stay (low = 0) s

def ends (t : Subject) : Regex → Spot → List Spot
  | .empty, s => [s]
  | .set complement members, s =>
    match t.chars[s.index]? with
    | some c => stay (t.accepts complement members c) { s with index := s.index + 1 }
    | none => []
  | .seq first second, s => (ends t first s).flatMap (ends t second)
  | .either one other, s => ends t one s ++ ends t other s
  | .repeated (.set complement members) low high, s =>
    let longest := (t.slice s.index t.chars.size).takeWhile (t.accepts complement members)
    let most := match high with
      | some n => min n longest.length
      | none => longest.length
    if most < low then []
    else ((List.range (most + 1 - low)).map fun k => { s with index := s.index + low + k }).reverse
  | .repeated r low high, s => times (ends t r) (t.chars.size + low + 2) low high s
  | .group number r, s =>
    (ends t r s).map fun e => { e with groups := (number, s.index, e.index) :: e.groups }
  | .again number, s =>
    match s.groups.lookup number with
    | some (low, high) =>
      let found := t.slice low high
      let next := s.index + found.length
      stay (t.same (t.slice s.index next) found) { s with index := next }
    | none => []
  | .lineStart, s => stay (s.index = 0) s
  | .lineEnd, s => stay (s.index = t.chars.size) s
  | .wordStart, s => stay (!t.wordBefore s.index && t.wordAt s.index) s
  | .wordEnd, s => stay (t.wordBefore s.index && !t.wordAt s.index) s
  | .wordEdge, s => stay (t.wordBefore s.index != t.wordAt s.index) s
  | .noWordEdge, s => stay (t.wordBefore s.index == t.wordAt s.index) s
  | .behindOther, s => stay (!t.wordBefore s.index) s
  | .beforeOther, s => stay (!t.wordAt s.index) s

structure Match where
  start : Nat
  finish : Nat
  groups : List (Nat × Nat × Nat)

def matchAt? (r : Regex) (t : Subject) (start : Nat) : Option Match :=
  ((ends t r { index := start }).foldl (fun (best : Option Match) s =>
    match best with
    | some m => if m.finish < s.index then some ⟨start, s.index, s.groups⟩ else best
    | none => some ⟨start, s.index, s.groups⟩) none)

def findFrom? (r : Regex) (t : Subject) : Nat → Nat → Option Match
  | 0, _ => none
  | fuel + 1, start =>
    if t.chars.size < start then none
    else (r.matchAt? t start).or (findFrom? r t fuel (start + 1))

def find? (r : Regex) (t : Subject) (start : Nat) : Option Match :=
  r.findFrom? t (t.chars.size + 1) start

/-- All matches that do not overlap; one of no characters directly behind another is left out. -/
def findAll (r : Regex) (t : Subject) : Nat → Nat → Option Nat → List Match
  | 0, _, _ => []
  | fuel + 1, start, last =>
    match r.find? t start with
    | none => []
    | some m =>
      if m.start = m.finish then
        let more := findAll r t fuel (m.finish + 1) (some m.finish)
        if last = some m.start then more else m :: more
      else m :: findAll r t fuel m.finish (some m.finish)

end Regex

end Scriptwright.Shell
