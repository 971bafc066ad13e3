import Scriptwright.Shell.Octets

/-!
Patterns over names: a star for any text, a question mark for any character, brackets for one
character of a set. A quoted character stands for itself.
-/
namespace Scriptwright.Shell

abbrev Marked := Bool × Char

inductive Members where
  | between (first last : Char)
  | named (name : String)

def inNamedClass (name : String) (c : Char) : Bool :=
  match name with
  | "alpha" => c.isAlpha
  | "digit" => c.isDigit
  | "alnum" => c.isAlphanum
  | "upper" => c.isUpper
  | "lower" => c.isLower
  | "space" => isSpace c
  | "blank" => isBlank c
  | "punct" => '!' ≤ c && c ≤ '~' && !c.isAlphanum
  | "print" => ' ' ≤ c && c ≤ '~'
  | "graph" => '!' ≤ c && c ≤ '~'
  | "cntrl" => c < ' ' || c = '\x7f'
  | "xdigit" => c.isDigit || ('a' ≤ c.toLower && c.toLower ≤ 'f')
  | _ => false

def Members.has (c : Char) : Members → Bool
  | .between first last => first ≤ c && c ≤ last
  | .named name => inNamedClass name c

inductive GlobItem where
  | any
  | one
  | set (complement : Bool) (members : List Members)
  | char (c : Char)

namespace GlobItem

def accepts (item : GlobItem) (c : Char) : Bool :=
  match item with
  | .any | .one => true
  | .set complement members => members.any (·.has c) != complement
  | .char d => c == d

end GlobItem

def className? (cs : List Marked) : Option (String × List Marked) :=
  match cs.span fun m => m.2.isAlpha with
  | (name, (false, ':') :: (_, ']') :: rest) => some (String.ofList (name.map Prod.snd), rest)
  | _ => none

/-- The members of a set up to its closing bracket; one in front of them all is a member. -/
def membersOf : Nat → Bool → List Marked → Option (List Members × List Marked)
  | 0, _, _ => none
  | fuel + 1, first, cs =>
    match cs with
    | [] => none
    | (false, ']') :: rest => if first then member fuel ']' rest else some ([], rest)
    | (false, '[') :: (false, ':') :: rest =>
      match className? rest with
      | some (name, rest) => entered fuel (.named name) rest
      | none => member fuel '[' ((false, ':') :: rest)
    | (_, c) :: rest => member fuel c rest
where
  entered (fuel : Nat) (m : Members) (rest : List Marked) : Option (List Members × List Marked) :=
    (membersOf fuel false rest).map fun (ms, rest) => (m :: ms, rest)
  member (fuel : Nat) (c : Char) (rest : List Marked) : Option (List Members × List Marked) :=
    match rest with
    | (false, '-') :: (quoted, d) :: more =>
      if d = ']' && !quoted then entered fuel (.between c c) rest else entered fuel (.between c d) more
    | rest => entered fuel (.between c c) rest

def setOf? (cs : List Marked) : Option (GlobItem × List Marked) :=
  let (complement, cs) := match cs with
    | (false, '!') :: cs | (false, '^') :: cs => (true, cs)
    | cs => (false, cs)
  (membersOf (cs.length + 1) true cs).map fun (ms, rest) => (.set complement ms, rest)

def globItems : Nat → List Marked → List GlobItem
  | 0, _ => []
  | fuel + 1, cs =>
    match cs with
    | [] => []
    | (false, '*') :: rest => .any :: globItems fuel rest
    | (false, '?') :: rest => .one :: globItems fuel rest
    | (false, '[') :: rest =>
      match setOf? rest with
      | some (item, rest) => item :: globItems fuel rest
      | none => .char '[' :: globItems fuel rest
    | (false, '\\') :: (_, c) :: rest => .char c :: globItems fuel rest
    | (_, c) :: rest => .char c :: globItems fuel rest

def globOf (cs : List Marked) : List GlobItem := globItems (cs.length + 1) cs

def hasGlob (cs : List Marked) : Bool :=
  cs.any fun (quoted, c) => !quoted && (c = '*' || c = '?' || c = '[')

def globMatches (items : List GlobItem) (cs : List Char) : Bool :=
  match items, cs with
  | [], cs => cs.isEmpty
  | .any :: items, [] => globMatches items []
  | .any :: items, c :: cs => globMatches items (c :: cs) || globMatches (.any :: items) cs
  | _ :: _, [] => false
  | item :: items, c :: cs => item.accepts c && globMatches items cs
termination_by items.length + cs.length

/-- Lengths at which a text can be cut so that the one part matches. -/
def cuts (matching : Nat → Bool) (length : Nat) : List Nat :=
  (List.range (length + 1)).filter matching

/-- A text without the shortest or longest beginning that matches. -/
def dropFront (longest : Bool) (items : List GlobItem) (text : List Char) : List Char :=
  let found := cuts (fun n => globMatches items (text.take n)) text.length
  text.drop ((if longest then found.getLast? else found.head?).getD 0)

/-- A text without the shortest or longest ending that matches. -/
def dropBack (longest : Bool) (items : List GlobItem) (text : List Char) : List Char :=
  let found := cuts (fun n => globMatches items (text.drop n)) text.length
  text.take ((if longest then found.head? else found.getLast?).getD text.length)

end Scriptwright.Shell
