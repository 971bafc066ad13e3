import Scriptwright.Shell.Regex.Reading

/-!
Instructions for editing lines as they go by, and reading them from a script.
-/
namespace Scriptwright.Shell.Utility.Edit

structure Pattern where
  regex : Option Regex
  folds : Bool := false

inductive Address where
  | line (n : Nat)
  | every (first step : Nat)
  | last
  | matching (p : Pattern)

inductive Finish where
  | address (a : Address)
  | further (n : Nat)
  | multiple (n : Nat)

structure Place where
  first : Option Address := none
  finish : Option Finish := none
  negated : Bool := false

inductive CaseChange where
  | upper
  | lower
  | nextUpper
  | nextLower
  | none
deriving DecidableEq

inductive Piece where
  | char (c : Char)
  /-- What a group has matched; the whole match is the group zero. -/
  | group (n : Nat)
  | case (c : CaseChange)

structure Substitution where
  pattern : Pattern
  pieces : List Piece
  /-- The first match that is replaced. -/
  number : Nat := 1
  all : Bool := false
  prints : Bool := false
  file : Option String := none

inductive Action where
  | opening
  | closing
  | label (name : String)
  | jump (name : String)
  | jumpIf (name : String)
  | jumpUnless (name : String)
  | append (text : String)
  | insert (text : String)
  | change (text : String)
  | substitute (s : Substitution)
  | translate (source target : List Char)
  | quit (status : Nat)
  | quitSilently (status : Nat)
  | readFile (path : String)
  | writeFile (path : String)
  /-- An action without more to it, by its letter. -/
  | plain (letter : Char)

structure Instruction where
  place : Place
  action : Action

structure Pen where
  rest : List Char
  read : Nat := 0

/-- What is wrong with a script; a problem at one of its characters has that one's number. -/
inductive Fault where
  | at (char : Nat) (text : String)
  | label (name : String)

abbrev Reading := StateT Pen (Except Fault)

def bad {α : Type} (text : String) : Reading α := do
  throw (.at (← get).read text)

def take? : Reading (Option Char) := do
  let pen ← get
  match pen.rest with
  | [] => return none
  | c :: rest =>
    set (⟨rest, pen.read + 1⟩ : Pen)
    return some c

def peek? : Reading (Option Char) := return (← get).rest.head?

def takeWhile (p : Char → Bool) : Reading (List Char) := do
  let pen ← get
  let (found, rest) := pen.rest.span p
  set (⟨rest, pen.read + found.length⟩ : Pen)
  return found

def number : Reading Nat := return ((String.ofList (← takeWhile Char.isDigit)).toNat?).getD 0

/-- The rest of a set in brackets; a bracket that comes first is a member of the set. -/
def setRest : Nat → Bool → Reading (Option (List Char))
  | 0, _ => return none
  | fuel + 1, first => do
    match ← take? with
    | none => return none
    | some c =>
      let more (found : List Char) (first : Bool) : Reading (Option (List Char)) := do
        return (← setRest fuel first).map (found ++ ·)
      if c = ']' && !first then return some [c]
      else
        match c, ← peek? with
        | '^', _ => more [c] first
        | '\\', some 'n' =>
          let _ ← take?
          more ['\n'] false
        | '[', some ':' =>
          let name ← takeWhile fun d => d = ':' || d.isAlpha
          if (← peek?) = some ']' then
            let _ ← take?
            more ('[' :: name ++ [']']) false
          else more ('[' :: name) false
        | _, _ => more [c] false

/-- Text up to a delimiter, which a backslash takes for itself; in an expression a set in brackets
may hold the delimiter. -/
def upTo (delimiter : Char) (isRegex : Bool) : Nat → Reading (Option (List Char))
  | 0 => return none
  | fuel + 1 => do
    match ← take? with
    | none => return none
    | some c =>
      if c = delimiter then return some []
      else if c = '\\' then
        match ← take? with
        | none => return none
        | some d =>
          let found := if d = delimiter then [d]
            else if d = 'n' && isRegex then ['\n']
            else if d = '\n' && isRegex then ['\n'] else ['\\', d]
          return (← upTo delimiter isRegex fuel).map (found ++ ·)
      else if c = '[' && isRegex then
        match ← setRest fuel true with
        | none => return none
        | some set => return (← upTo delimiter isRegex fuel).map ((c :: set) ++ ·)
      else if c = '\n' && isRegex then return none
      else return (← upTo delimiter isRegex fuel).map (c :: ·)

def upToDelimiter (delimiter : Char) (isRegex : Bool) : Reading (Option (List Char)) := do
  upTo delimiter isRegex ((← get).rest.length + 1)

def pattern (extended folds : Bool) (cs : List Char) : Reading Pattern := do
  if cs.isEmpty then return ⟨none, folds⟩
  match Regex.read extended (String.ofList cs) with
  | .ok r => return ⟨some r, folds⟩
  | .error f => bad (f.message extended)

def address? (extended : Bool) : Reading (Option Address) := do
  match ← peek? with
  | some '$' =>
    let _ ← take?
    return some .last
  | some c =>
    if c.isDigit then
      let n ← number
      match ← peek? with
      | some '~' =>
        let _ ← take?
        return some (.every n (← number))
      | _ => return some (.line n)
    else if c = '/' || c = '\\' then
      let _ ← take?
      let delimiter ← if c = '/' then pure (some '/') else take?
      match delimiter with
      | none => bad "unexpected \x60,'"
      | some d =>
        match ← upToDelimiter d true with
        | none => bad "unterminated address regex"
        | some cs =>
          let flags ← takeWhile fun c => c = 'I' || c = 'M'
          return some (.matching (← pattern extended (flags.contains 'I') cs))
    else return none
  | none => return none

def finish (extended : Bool) : Reading Finish := do
  let _ ← takeWhile isSpace
  match ← peek? with
  | some '+' =>
    let _ ← take?
    return .further (← number)
  | some '~' =>
    let _ ← take?
    return .multiple (← number)
  | _ =>
    match ← address? extended with
    | some a => return .address a
    | none =>
      let _ ← take?
      bad "unexpected \x60,'"

def place (extended : Bool) : Reading Place := do
  let first ← address? extended
  let pen ← get
  match first, pen.rest with
  | none, '+' :: _ | none, '~' :: _ =>
    let _ ← take?
    let _ ← number
    bad "invalid usage of +N or ~N as first address"
  | _, _ => pure ()
  let _ ← takeWhile isSpace
  let rangeEnd ← if first.isSome && (← peek?) = some ',' then do
      let _ ← take?
      pure (some (← finish extended))
    else pure none
  let _ ← takeWhile isSpace
  match first, rangeEnd with
  | some (.line 0), some (.address (.matching _)) => pure ()
  | some (.line 0), _ =>
    let _ ← take?
    bad "invalid usage of line address 0"
  | _, _ => pure ()
  let negated := (← peek?) = some '!'
  if negated then
    let _ ← takeWhile fun c => c = '!' || isSpace c
  return ⟨first, rangeEnd, negated⟩

def ending : Reading Unit := do
  let _ ← takeWhile isBlank
  match ← peek? with
  | none | some '\x7d' | some '#' => return
  | some c =>
    let _ ← take?
    if c ≠ ';' && c ≠ '\n' && c ≠ '\r' then bad "extra characters after command"

/-- Text for an action up to the end of its line; a backslash takes the line end along. -/
def textLine : Nat → Reading (List Char)
  | 0 => return []
  | fuel + 1 => do
    match ← take? with
    | none | some '\n' => return []
    | some '\\' =>
      match ← take? with
      | none => return []
      | some c => return c :: (← textLine fuel)
    | some c => return c :: (← textLine fuel)

def text : Reading String := do
  let _ ← takeWhile isBlank
  match ← peek? with
  | none => bad "expected \\ after \x60a', \x60c' or \x60i'"
  | some c =>
    if c = '\\' then
      let _ ← take?
      let blanks ← takeWhile isBlank
      if (← peek?) = some '\n' then
        let _ ← take?
        return String.ofList (← textLine ((← get).rest.length + 1)) ++ "\n"
      else
        let _ ← pure blanks
        let kept ← textLine ((← get).rest.length + 1)
        return String.ofList (blanks ++ kept) ++ "\n"
    else return String.ofList (← textLine ((← get).rest.length + 1)) ++ "\n"

def lineName : Reading String := do
  let _ ← takeWhile isBlank
  return String.ofList (← takeWhile (· != '\n'))

def labelName : Reading String := do
  let _ ← takeWhile isBlank
  let name ← takeWhile fun c => c ≠ '\n' && c ≠ ';' && c ≠ '\x7d' && !isSpace c
  ending
  return String.ofList name

def pieces : List Char → List Piece
  | [] => []
  | '&' :: cs => .group 0 :: pieces cs
  | '\\' :: c :: cs =>
    let piece : Piece := if c.isDigit then .group (c.toNat - '0'.toNat)
      else match c with
        | 'n' => .char '\n'
        | 't' => .char '\t'
        | 'r' => .char '\r'
        | 'f' => .char '\x0c'
        | 'v' => .char '\x0b'
        | 'a' => .char '\x07'
        | 'U' => .case .upper
        | 'L' => .case .lower
        | 'u' => .case .nextUpper
        | 'l' => .case .nextLower
        | 'E' => .case .none
        | c => .char c
    piece :: pieces cs
  | c :: cs => .char c :: pieces cs

def groupCount : Regex → Nat
  | .seq a b | .either a b => max (groupCount a) (groupCount b)
  | .repeated r _ _ => groupCount r
  | .group n r => max n (groupCount r)
  | _ => 0

structure Flags where
  number : Option Nat := none
  all : Bool := false
  prints : Bool := false
  folds : Bool := false
  file : Option String := none

def flags : Nat → Flags → Reading Flags
  | 0, f => return f
  | fuel + 1, f => do
    match ← peek? with
    | none | some '\x7d' | some '#' => return f
    | some c =>
      if c.isDigit then
        let n ← number
        if n = 0 then bad "number option to \x60s' command may not be zero"
        else if f.number.isSome then bad "multiple number options to \x60s' command"
        else flags fuel { f with number := some n }
      else
        let _ ← take?
        match c with
        | 'g' =>
          if f.all then bad "multiple \x60g' options to \x60s' command"
          else flags fuel { f with all := true }
        | 'p' =>
          if f.prints then bad "multiple \x60p' options to \x60s' command"
          else flags fuel { f with prints := true }
        | 'i' | 'I' => flags fuel { f with folds := true }
        | 'm' | 'M' => flags fuel f
        | 'w' => return { f with file := some (← lineName) }
        | ' ' | '\t' => flags fuel f
        | ';' | '\n' => return f
        | _ => bad "unknown option to \x60s'"

def substitution (extended : Bool) : Reading Substitution := do
  let unterminated := "unterminated \x60s' command"
  match ← take? with
  | none => bad unterminated
  | some d =>
    match ← upToDelimiter d true with
    | none => bad unterminated
    | some found =>
      match ← upToDelimiter d false with
      | none => bad unterminated
      | some replacement =>
        let f ← flags ((← get).rest.length + 1) {}
        let p ← pattern extended f.folds found
        let new := pieces replacement
        let highest := new.foldl (fun n piece => match piece with
          | .group k => max n k
          | _ => n) 0
        let known := (p.regex.map groupCount).getD 9
        if known < highest then
          bad ("invalid reference \\" ++ toString highest ++ " on \x60s' command's RHS")
        return ⟨p, new, f.number.getD 1, f.all, f.prints, f.file⟩

/-- The characters of a translation, without the backslashes in front of some. -/
def translated : List Char → List Char
  | [] => []
  | '\\' :: 'n' :: cs => '\n' :: translated cs
  | '\\' :: 't' :: cs => '\t' :: translated cs
  | '\\' :: '\\' :: cs => '\\' :: translated cs
  | c :: cs => c :: translated cs

def translation : Reading Action := do
  let unterminated := "unterminated \x60y' command"
  match ← take? with
  | none => bad unterminated
  | some d =>
    match ← upToDelimiter d false with
    | none => bad unterminated
    | some a =>
      match ← upToDelimiter d false with
      | none => bad unterminated
      | some b =>
        let source := translated a
        let target := translated b
        if source.length ≠ target.length then
          bad "strings for \x60y' command are different lengths"
        ending
        return .translate source target

def action (extended : Bool) (p : Place) : Reading Action := do
  match ← take? with
  | none => bad "missing command"
  | some c =>
    match c with
    | '\x7b' => return .opening
    | '\x7d' =>
      if p.first.isSome then bad "\x7d doesn't want any addresses"
      ending
      return .closing
    | ':' =>
      if p.first.isSome then bad ": doesn't want any addresses"
      let _ ← takeWhile isBlank
      let name ← takeWhile fun c => !isSpace c && c ≠ ';'
      if name.isEmpty then bad "\":\" lacks a label"
      ending
      return .label (String.ofList name)
    | 'b' => return .jump (← labelName)
    | 't' => return .jumpIf (← labelName)
    | 'T' => return .jumpUnless (← labelName)
    | 'a' => return .append (← text)
    | 'i' => return .insert (← text)
    | 'c' => return .change (← text)
    | 's' => return .substitute (← substitution extended)
    | 'y' => translation
    | 'q' | 'Q' =>
      let _ ← takeWhile isBlank
      let status ← number
      ending
      return if c = 'q' then .quit status else .quitSilently status
    | 'r' => return .readFile (← lineName)
    | 'w' => return .writeFile (← lineName)
    | 'l' =>
      let _ ← takeWhile isBlank
      let _ ← number
      ending
      return .plain c
    | _ =>
      if "=dDgGhHnNpPxzF".toList.contains c then
        ending
        return .plain c
      else bad ("unknown command: \x60" ++ c.toString ++ "'")

/-- The instructions of a script; `depth` counts the blocks that are open. -/
def instructions (extended : Bool) : Nat → Nat → Reading (List Instruction)
  | 0, _ => return []
  | fuel + 1, depth => do
    let _ ← takeWhile fun c => isSpace c || c = ';'
    match ← peek? with
    | none =>
      if depth = 0 then return []
      else throw (.at 0 "unmatched \x60\x7b'")
    | some '#' =>
      let _ ← takeWhile (· != '\n')
      instructions extended fuel depth
    | some _ =>
      let p ← place extended
      if p.first.isSome && (← peek?) = some '#' then
        let _ ← take?
        bad "comments don't accept any addresses"
      let a ← action extended p
      match a with
      | .closing =>
        if depth = 0 then bad "unexpected \x60\x7d'"
        else return ⟨p, a⟩ :: (← instructions extended fuel (depth - 1))
      | .opening => return ⟨p, a⟩ :: (← instructions extended fuel (depth + 1))
      | _ => return ⟨p, a⟩ :: (← instructions extended fuel depth)

def labels (script : List Instruction) : List String :=
  script.filterMap fun i => match i.action with
    | .label name => some name
    | _ => none

/-- Reads a script; every jump leads to a label or to the end. -/
def script (extended : Bool) (source : String) : Except Fault (List Instruction) := do
  let (found, _) ← (instructions extended (source.length + 1) 0).run { rest := source.toList }
  let known := labels found
  let missing := found.findSome? fun i => match i.action with
    | .jump name | .jumpIf name | .jumpUnless name =>
      if name = "" || known.contains name then none else some name
    | _ => none
  match missing with
  | some name => throw (.label name)
  | none => return found

end Scriptwright.Shell.Utility.Edit
