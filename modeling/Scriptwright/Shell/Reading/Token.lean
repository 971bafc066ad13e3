import Scriptwright.Shell.Reading.Word

/-!
Tokens of shell source, and the texts that stand in the source behind a line which asks for them.
-/
namespace Scriptwright.Shell.Reading

def reservedWords : List String :=
  ["!", "case", "do", "done", "elif", "else", "esac", "fi", "for", "if", "in", "then", "until",
    "while", "\x7b", "\x7d"]

def push (t : Token) : Reading Unit := modify fun s => { s with pushed := some t }

def unexpected {α : Type} (t : Token) (expected : Option String) : Reading α :=
  fault (t.label ++ " unexpected" ++ match expected with
    | some e => " (expecting " ++ e ++ ")"
    | none => "")

def skipGaps : Nat → Reading Unit
  | 0 => return
  | fuel + 1 => do
    match ← peek with
    | some c =>
      if isBlank c then
        skip
        skipGaps fuel
      else if c = '#' then
        modify fun s => { s with rest := s.rest.dropWhile (· != '\n') }
      else return
    | none => return

def documentText (a : Awaited) : Nat → List Char → Nat → List Char → List Char × Nat × List Char
  | 0, done, count, cs => (done.reverse, count, cs)
  | fuel + 1, done, count, cs =>
    let (line, rest) := cs.span (· != '\n')
    let line := if a.dropsTabs then line.dropWhile (· == '\t') else line
    if line = a.mark.toList then (done.reverse, count + 1, rest.drop 1)
    else
      match rest with
      | [] => ((line.reverse ++ done).reverse, count, [])
      | _ :: rest => documentText a fuel ('\n' :: (line.reverse ++ done)) (count + 1) rest

def readDocuments (commands : Reading Command) : Reading Unit := do
  let awaited := (← get).awaited
  modify fun s => { s with awaited := [] }
  for a in awaited do
    let s ← get
    let (text, count, rest) := documentText a (s.rest.length + 1) [] 0 s.rest
    let w ← if a.literal then pure [.text true (String.ofList text)]
      else inside text (parts commands (2 * text.length + 4) .document [])
    modify fun s =>
      { s with rest, line := s.line + count, documents := (a.number, w) :: s.documents }

def redirectSign (first : Char) : Reading String := do
  skip
  let next ← peek
  if first = '>' then
    if next = some '>' || next = some '|' || next = some '&' then
      skip
      return String.ofList ('>' :: next.toList)
    else return ">"
  else if next = some '<' then
    skip
    if (← peek) = some '-' then
      skip
      return "<<-"
    else return "<<"
  else if next = some '&' || next = some '>' then
    skip
    return String.ofList ('<' :: next.toList)
  else return "<"

def streamOf? (sign : Char) : Word → Option Nat
  | [] => some (if sign = '>' then 1 else 0)
  | [.text false s] =>
    match s.toList with
    | [d] => if d.isDigit then some (d.toNat - '0'.toNat) else none
    | _ => none
  | _ => none

def operatorFrom (c : Char) : Reading (Option Token) := do
  if "&|;".toList.contains c then
    skip
    if (← peek) = some c then
      skip
      return some (.operator (String.ofList [c, c]))
    else return some (.operator c.toString)
  else if c = '(' || c = ')' then
    skip
    return some (.operator c.toString)
  else return none

/-- The next token; words may turn out to be reserved later. -/
def rawToken (commands : Reading Command) (place : Place) : Reading Token := do
  let s ← get
  match s.pushed with
  | some t =>
    set { s with pushed := none }
    return t
  | none =>
    skipGaps (s.rest.length + 1)
    match ← peek with
    | none =>
      readDocuments commands
      return .finish
    | some '\n' =>
      skip
      readDocuments commands
      return .newline
    | some c =>
      match ← operatorFrom c with
      | some t => return t
      | none =>
        let w ← word commands place
        match ← peek with
        | some c =>
          match if c = '<' || c = '>' then streamOf? c w else none with
          | some stream => return .redirect stream (← redirectSign c)
          | none => return .word w
        | none => return .word w

/-- Line ends are skipped first if `skipsLines` holds; reserved words are told apart if `reserves`
holds. -/
def token (commands : Reading Command) (reserves skipsLines : Bool) : Reading Token := do
  let lines := (← get).rest.length + 1
  match ← dropLines (if skipsLines then lines else 0) with
  | .word w =>
    match Word.bare? w with
    | some s => if reserves && reservedWords.contains s then return .reserved s else return .word w
    | none => return .word w
  | t => return t
where
  dropLines : Nat → Reading Token
    | 0 => rawToken commands .word
    | fuel + 1 => do
      match ← rawToken commands .word with
      | .newline => dropLines fuel
      | t => return t

end Scriptwright.Shell.Reading
