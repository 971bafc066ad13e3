import Scriptwright.Pattern.Basic

/-!
Matching a pattern at a place in a text, and finding its matches from left to right. A match is
the preferred one among those that start furthest to the left; the next search starts where the
last match ended.
-/
namespace Scriptwright

/-- A place in a text: the character before it, what follows, and the bytes passed so far. -/
structure Place where
  before : Option Char
  after : List Char
  offset : Nat
deriving Repr, DecidableEq

namespace Place

def next? (p : Place) : Option Char := p.after.head?

def atWordEdge (p : Place) : Bool := p.before.any Text.isWordChar != p.next?.any Text.isWordChar

def atLineStart (p : Place) : Bool := p.before.all (· == '\n')

def atLineEnd (p : Place) : Bool := p.next?.all (· == '\n')

/-- The place behind the character `c`, which `rest` follows. -/
def step (p : Place) (c : Char) (rest : List Char) : Place := ⟨some c, rest, p.offset + c.utf8Size⟩

/-- The places where a run of `s` may stop, the furthest first, followed by `reached`. -/
def reach (s : CharSet) (before : Option Char) (offset : Nat) (reached : List Place) :
    List Char → List Place
  | [] => ⟨before, [], offset⟩ :: reached
  | c :: cs =>
    if s.mem c then reach s (some c) (offset + c.utf8Size) (⟨before, c :: cs, offset⟩ :: reached) cs
    else ⟨before, c :: cs, offset⟩ :: reached

def runEnds (s : CharSet) (p : Place) : List Place := reach s p.before p.offset [] p.after

end Place

namespace Pattern

/-- The preferred way to match here such that `k` accepts the place behind the match. -/
def matchThen {α : Type} : Pattern → Place → (Place → Option α) → Option α
  | .nothing, p, k => k p
  | .char s, p, k =>
    match p.after with
    | [] => none
    | c :: cs => if s.mem c then k (p.step c cs) else none
  | .run s, p, k => (p.runEnds s).findSome? k
  | .seq first second, p, k => first.matchThen p fun q => second.matchThen q k
  | .either preferred other, p, k =>
    (preferred.matchThen p k).orElse fun _ => other.matchThen p k
  | .wordEdge, p, k => if p.atWordEdge then k p else none
  | .lineStart, p, k => if p.atLineStart then k p else none
  | .lineEnd, p, k => if p.atLineEnd then k p else none

/-- The place behind the preferred match that starts here. -/
def matchAt? (pattern : Pattern) (p : Place) : Option Place := pattern.matchThen p some

def openingRun? : Pattern → Option CharSet
  | .seq (.seq (.char s) (.run t)) _ => if s = t then some s else none
  | _ => none

end Pattern

structure Found where
  start : Nat
  stop : Nat
  text : List Char
deriving Repr, DecidableEq

/-- The first characters of a text, `n` bytes of them, behind `taken` reversed. -/
def takeBytes (taken : List Char) : Nat → List Char → List Char
  | _, [] => taken.reverse
  | n, c :: cs => if n = 0 then taken.reverse else takeBytes (c :: taken) (n - c.utf8Size) cs

namespace Pattern

/-- Matches that start at this place or later, but not before the byte `resume`. In a pattern that
opens with a run, a try that failed within a run fails at the later places of that run too
(`stuck`), so these are passed over. -/
def findFrom (pattern : Pattern) (inRun : Char → Bool) (resume : Nat) (stuck : Bool)
    (before : Option Char) (offset : Nat) : List Char → List Found
  | [] => []
  | c :: cs =>
    if offset < resume then
      findFrom pattern inRun resume false (some c) (offset + c.utf8Size) cs
    else if stuck && inRun c then
      findFrom pattern inRun resume true (some c) (offset + c.utf8Size) cs
    else
      match pattern.matchAt? ⟨before, c :: cs, offset⟩ with
      | none => findFrom pattern inRun resume (inRun c) (some c) (offset + c.utf8Size) cs
      | some stop =>
        ⟨offset, stop.offset, takeBytes [] (stop.offset - offset) (c :: cs)⟩ ::
          findFrom pattern inRun stop.offset false (some c) (offset + c.utf8Size) cs

/-- All matches of a pattern that matches no empty text, from left to right. -/
def findAll (pattern : Pattern) (text : List Char) : List Found :=
  let inRun := match pattern.openingRun? with
    | some s => s.mem
    | none => fun _ => false
  findFrom pattern inRun 0 false none 0 text

def occursFrom (pattern : Pattern) (before : Option Char) (offset : Nat) : List Char → Bool
  | [] => (pattern.matchAt? ⟨before, [], offset⟩).isSome
  | c :: cs =>
    (pattern.matchAt? ⟨before, c :: cs, offset⟩).isSome ||
      occursFrom pattern (some c) (offset + c.utf8Size) cs

/-- Whether the pattern matches somewhere in the text. -/
def occurs (pattern : Pattern) (text : List Char) : Bool := occursFrom pattern none 0 text

end Pattern

end Scriptwright
