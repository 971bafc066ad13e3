import Scriptwright.Text.Category

/-!
Search patterns: classes of characters, runs of a class, sequence, preference, and the edges of
words and lines. A run takes as much as it can and gives back one character at a time; of two
alternatives the first is preferred.
-/
namespace Scriptwright

inductive CharClass where
  | one (c : Char)
  | between (first last : Char)
  | word
  | blank
  | digit
deriving DecidableEq, Repr

def CharClass.mem : CharClass → Char → Bool
  | .one a, c => a == c
  | .between first last, c => decide (first ≤ c) && decide (c ≤ last)
  | .word, c => Text.isWordChar c
  | .blank, c => Text.isBlank c
  | .digit, c => Text.isDecimalDigit c

structure CharSet where
  classes : List CharClass
  complement : Bool := false
deriving DecidableEq, Repr

def CharSet.mem (s : CharSet) (c : Char) : Bool :=
  s.classes.any (·.mem c) != s.complement

def CharSet.of (classes : List CharClass) : CharSet := ⟨classes, false⟩

def CharSet.not (classes : List CharClass) : CharSet := ⟨classes, true⟩

def CharSet.chars (text : String) : CharSet := .of (text.toList.map .one)

def CharSet.notChars (text : String) : CharSet := .not (text.toList.map .one)

inductive Pattern where
  | nothing
  | char (s : CharSet)
  /-- As many characters of the set as possible, perhaps none. -/
  | run (s : CharSet)
  | seq (first second : Pattern)
  /-- `preferred`, and `other` only where `preferred` leads to no match. -/
  | either (preferred other : Pattern)
  | wordEdge
  | lineStart
  | lineEnd
deriving DecidableEq, Repr

namespace Pattern

def ofChars : List Char → Pattern
  | [] => .nothing
  | [c] => .char (.of [.one c])
  | c :: cs => .seq (.char (.of [.one c])) (ofChars cs)

def text (s : String) : Pattern := ofChars s.toList

def chain : List Pattern → Pattern
  | [] => .nothing
  | [p] => p
  | p :: ps => .seq p (chain ps)

def oneOf : List Pattern → Pattern
  | [] => .char (.of [])
  | [p] => p
  | p :: ps => .either p (oneOf ps)

def someOf (s : CharSet) : Pattern := .seq (.char s) (.run s)

def optional (p : Pattern) : Pattern := .either p .nothing

def wholeWord (words : List String) : Pattern :=
  chain [.wordEdge, oneOf (words.map text), .wordEdge]

/-- The two cases of an ASCII letter, with the long s and the Kelvin sign that fold to one. -/
def foldedChar (c : Char) : CharSet :=
  if c = 's' then .chars "sSſ"
  else if c = 'k' then .chars "kKK"
  else .of [.one c, .one c.toUpper]

def foldedText (s : String) : Pattern := chain (s.toList.map fun c => .char (foldedChar c))

end Pattern

end Scriptwright
