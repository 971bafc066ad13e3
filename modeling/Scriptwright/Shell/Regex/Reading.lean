import Scriptwright.Shell.Regex

/-!
Reading regular expressions. In the basic spelling, groups, alternatives and counts need a backslash
in front of their signs; in the extended one the backslash takes their meaning away.
-/
namespace Scriptwright.Shell.Regex

inductive Sign where
  | char (c : Char)
  | any
  | set (complement : Bool) (members : List Members)
  | opening
  | closing
  | bar
  /-- At least, and at most, so many times. -/
  | count (low : Nat) (high : Option Nat)
  | lineStart
  | lineEnd
  | anchor (r : Regex)
  | again (number : Nat)

inductive Fault where
  | bracket
  | group
  | count
  | escape
  | reference
  | preceding

def Fault.message (extended : Bool) : Fault → String
  | .bracket => "Unmatched [, [^, [:, [., or [="
  | .group => if extended then "Unmatched ( or \\(" else "Unmatched ( or \\("
  | .count => "Invalid content of \\\x7b\\\x7d"
  | .escape => "Trailing backslash"
  | .reference => "Invalid back reference"
  | .preceding => "Invalid preceding regular expression"

/-- Members of a set in brackets; a backslash is a member like others. -/
def bracket : Nat → Bool → List Char → Option (List Members × List Char)
  | 0, _, _ => none
  | fuel + 1, first, cs =>
    match cs with
    | [] => none
    | ']' :: rest => if first then member fuel ']' rest else some ([], rest)
    | '[' :: ':' :: rest =>
      let (name, rest) := rest.span Char.isAlpha
      match rest with
      | ':' :: ']' :: rest =>
        (bracket fuel false rest).map fun (ms, rest) => (.named (String.ofList name) :: ms, rest)
      | _ => none
    | c :: rest => member fuel c rest
where
  member (fuel : Nat) (c : Char) (rest : List Char) : Option (List Members × List Char) :=
    match rest with
    | '-' :: d :: more =>
      if d = ']' then (bracket fuel false rest).map fun (ms, rest) => (.between c c :: ms, rest)
      else (bracket fuel false more).map fun (ms, rest) => (.between c d :: ms, rest)
    | rest => (bracket fuel false rest).map fun (ms, rest) => (.between c c :: ms, rest)

def bounds (extended : Bool) (cs : List Char) : Option (Sign × List Char) :=
  let number (ds : List Char) : Option Nat := (String.ofList ds).toNat?
  let (low, rest) := cs.span Char.isDigit
  let (high, rest) := match rest with
    | ',' :: rest =>
      let (ds, rest) := rest.span Char.isDigit
      (some ds, rest)
    | rest => (none, rest)
  let rest := match extended, rest with
    | true, '\x7d' :: rest => some rest
    | false, '\\' :: '\x7d' :: rest => some rest
    | _, _ => none
  match rest, low, high with
  | none, _, _ => none
  | some rest, [], some _ => (some (.count 0 (number (high.getD [])), rest))
  | some _, [], none => none
  | some rest, low, none => some (.count ((number low).getD 0) (number low), rest)
  | some rest, low, some [] => some (.count ((number low).getD 0) none, rest)
  | some rest, low, some high => some (.count ((number low).getD 0) (number high), rest)

def wordMembers : List Members := [.named "alnum", .between '_' '_']

/-- The sign for a letter behind a backslash that means the same in both spellings. -/
def escaped? : Char → Option Sign
  | '<' => some (.anchor .wordStart)
  | '>' => some (.anchor .wordEnd)
  | 'b' => some (.anchor .wordEdge)
  | 'B' => some (.anchor .noWordEdge)
  | 'w' => some (.set false wordMembers)
  | 'W' => some (.set true wordMembers)
  | 's' => some (.set false [.named "space"])
  | 'S' => some (.set true [.named "space"])
  | 'n' => some (.char '\n')
  | 't' => some (.char '\t')
  | _ => none

def signs (extended : Bool) : Nat → List Char → Except Fault (List Sign)
  | 0, _ => .ok []
  | fuel + 1, cs => do
    let next (s : Sign) (rest : List Char) : Except Fault (List Sign) := do
      return s :: (← signs extended fuel rest)
    let special (c : Char) (rest : List Char) : Except Fault (List Sign) :=
      match c with
      | '(' => next .opening rest
      | ')' => next .closing rest
      | '|' => next .bar rest
      | '+' => next (.count 1 none) rest
      | '?' => next (.count 0 (some 1)) rest
      | _ =>
        match bounds extended rest with
        | some (s, rest) => next s rest
        | none => if extended then next (.char '\x7b') rest else .error .count
    let isSpecial (c : Char) : Bool := "()|+?\x7b".toList.contains c
    match cs with
    | [] => return []
    | '[' :: rest =>
      let (complement, rest) := match rest with
        | '^' :: rest => (true, rest)
        | rest => (false, rest)
      match bracket (rest.length + 1) true rest with
      | some (ms, rest) => next (.set complement ms) rest
      | none => .error .bracket
    | '.' :: rest => next .any rest
    | '*' :: rest => next (.count 0 none) rest
    | '^' :: rest => next .lineStart rest
    | '$' :: rest => next .lineEnd rest
    | ['\\'] => .error .escape
    | '\\' :: c :: rest =>
      if isSpecial c then if extended then next (.char c) rest else special c rest
      else if c.isDigit && c ≠ '0' then next (.again (c.toNat - '0'.toNat)) rest
      else
        match escaped? c with
        | some s => next s rest
        | none => next (.char c) rest
    | c :: rest => if extended && isSpecial c then special c rest else next (.char c) rest

def ofChar (c : Char) : Regex := .set false [.between c c]

def anyChar : Regex := .set true []

def counted (r : Regex) : List Sign → Regex × List Sign
  | .count low high :: rest => counted (.repeated r low high) rest
  | rest => (r, rest)

mutual

/-- Alternatives up to the end of a group; with them, how many groups there were. -/
def alternatives (extended : Bool) : Nat → Nat → Nat → List Sign →
    Except Fault (Regex × Nat × List Sign)
  | 0, _, groups, ss => .ok (.empty, groups, ss)
  | fuel + 1, depth, groups, ss => do
    let (r, groups, rest) ← sequence extended fuel depth groups true .empty ss
    match rest with
    | .bar :: rest =>
      let (other, groups, rest) ← alternatives extended fuel depth groups rest
      return (.either r other, groups, rest)
    | rest => return (r, groups, rest)

/-- Pieces one after the other, behind those in `done`. -/
def sequence (extended : Bool) : Nat → Nat → Nat → Bool → Regex → List Sign →
    Except Fault (Regex × Nat × List Sign)
  | 0, _, groups, _, done, ss => .ok (done, groups, ss)
  | fuel + 1, depth, groups, first, done, ss => do
    let add (r : Regex) (groups : Nat) (rest : List Sign) :
        Except Fault (Regex × Nat × List Sign) :=
      let (r, rest) := counted r rest
      sequence extended fuel depth groups false (.seq done r) rest
    match ss with
    | [] => return (done, groups, [])
    | .bar :: _ => return (done, groups, ss)
    | .closing :: rest =>
      if depth = 0 then
        if extended then add (ofChar ')') groups rest else .error .group
      else return (done, groups, ss)
    | .char c :: rest => add (ofChar c) groups rest
    | .any :: rest => add anyChar groups rest
    | .set complement ms :: rest => add (.set complement ms) groups rest
    | .anchor r :: rest => add r groups rest
    | .again number :: rest => if groups < number then .error .reference else add (.again number) groups rest
    | .opening :: rest =>
      let number := groups + 1
      let (r, groups, rest) ← alternatives extended fuel (depth + 1) number rest
      match rest with
      | .closing :: rest => add (.group number r) groups rest
      | _ => .error .group
    | .lineStart :: rest =>
      if extended || first then
        match rest with
        | .count 0 none :: more =>
          if extended then sequence extended fuel depth groups false (.seq done .lineStart) more
          else sequence extended fuel depth groups false (.seq (.seq done .lineStart) (ofChar '*')) more
        | rest => sequence extended fuel depth groups false (.seq done .lineStart) rest
      else add (ofChar '^') groups rest
    | .lineEnd :: rest =>
      let last := match rest with
        | [] | .closing :: _ | .bar :: _ => true
        | _ => false
      if extended || last then sequence extended fuel depth groups false (.seq done .lineEnd) rest
      else add (ofChar '$') groups rest
    | .count low high :: rest =>
      if first then
        if extended then sequence extended fuel depth groups true done rest
        else
          match low, high with
          | 0, none => add (ofChar '*') groups rest
          | _, _ => .error .preceding
      else sequence extended fuel depth groups false done rest

end

def read (extended : Bool) (text : String) : Except Fault Regex := do
  let ss ← signs extended (text.length + 1) text.toList
  let (r, _, rest) ← alternatives extended (4 * ss.length + 8) 0 0 ss
  if rest.isEmpty then return r else throw .group

def ofText (text : String) : Regex :=
  text.toList.foldl (fun r c => .seq r (ofChar c)) .empty

end Scriptwright.Shell.Regex
