import Scriptwright.Shell.Builtin.Basic

/-!
Reading a line into variables, and options out of arguments.
-/
namespace Scriptwright.Shell.Builtin

/-- A line from the input; a backslash quotes the next character and joins lines. With it, whether
the line had an end. -/
def markedLine (raw : Bool) : Nat → List Marked → Run (List Marked × Bool)
  | 0, done => return (done, false)
  | fuel + 1, done => do
    match ← takeLine 0 with
    | none => return (done, false)
    | some line =>
      let cs := (withoutEnd line).toList
      let ended := line.endsWith "\n"
      if raw then return (done ++ cs.map (false, ·), ended)
      let (found, goesOn) := unescape cs
      if goesOn && ended then markedLine raw fuel (done ++ found) else return (done ++ found, ended)
where
  unescape : List Char → List Marked × Bool
    | [] => ([], false)
    | ['\\'] => ([], true)
    | '\\' :: c :: rest =>
      let (more, goesOn) := unescape rest
      ((true, c) :: more, goesOn)
    | c :: rest =>
      let (more, goesOn) := unescape rest
      ((false, c) :: more, goesOn)

structure Separators where
  all : List Char

namespace Separators

def blank (s : Separators) (m : Marked) : Bool :=
  !m.1 && s.all.contains m.2 && (isBlank m.2 || m.2 = '\n')

def has (s : Separators) (m : Marked) : Bool := !m.1 && s.all.contains m.2

def skipOne (s : Separators) (cs : List Marked) : List Marked :=
  match cs.dropWhile s.blank with
  | m :: rest => if s.has m then rest.dropWhile s.blank else m :: rest
  | [] => []

def trimEnd (s : Separators) (cs : List Marked) : List Marked :=
  (cs.reverse.dropWhile s.blank).reverse

/-- The rest of a line as the value of the last name: one separator at its end is dropped if there
is none before. -/
def lastValue (s : Separators) (cs : List Marked) : List Marked :=
  let (field, rest) := cs.span fun m => !s.has m
  if (s.skipOne rest).isEmpty then field else s.trimEnd cs

def deal (s : Separators) : List String → List Marked → List (String × List Marked)
  | [], _ => []
  | [name], cs => [(name, s.lastValue cs)]
  | name :: names, cs =>
    let (field, rest) := cs.span fun m => !s.has m
    (name, field) :: deal s names (s.skipOne rest)

end Separators

def read (c : Call) : Run Nat := do
  let (letters, names) ← readOptions c.arguments
  if names.isEmpty then fail "arg count"
  for name in names do checkName name
  let (line, ended) ← markedLine letters 1000 []
  let s : Separators := ⟨separators (← process)⟩
  for (name, value) in s.deal names (line.dropWhile s.blank) do
    setVariable name (String.ofList (value.map Prod.snd))
  return if ended then 0 else 1
where
  readOptions : List String → Run (Bool × List String)
    | "-p" :: text :: rest => do
      put errorStream text
      let (raw, rest) ← readOptions rest
      return (raw, rest)
    | "--" :: rest => return (false, rest)
    | a :: rest => do
      match a.toList with
      | '-' :: c :: _ =>
        if c ≠ 'r' then fail ("Illegal option -" ++ c.toString)
        let (_, rest) ← readOptions rest
        return (true, rest)
      | _ => return (false, a :: rest)
    | [] => return (false, [])

/-- The next option out of words: its letter and argument, how many words were read, and whether
there was one. -/
def getopts (c : Call) : Run Nat := do
  match c.arguments with
  | allowed :: name :: rest =>
    let p ← process
    let words := if rest.isEmpty then p.arguments else rest
    let (index, offset) := p.optionPlace
    let silent := allowed.startsWith ":"
    match words[index - 1]? with
    | none => finished index name
    | some word =>
      let cs := word.toList
      if offset = 0 && (word = "-" || !word.startsWith "-") then finished index name
      else if offset = 0 && word = "--" then finished (index + 1) name
      else
        let place := max offset 1
        let letter := (cs[place]?).getD '?'
        let more := cs.drop (place + 1)
        let next := if more.isEmpty then (index + 1, 0) else (index, place + 1)
        match allowed.toList.span (· != letter) with
        | (_, _ :: after) =>
          if letter = ':' then unknown silent letter next name
          else if after.head? != some ':' then
            change fun p => p.withVariable "OPTARG" none
            found next name letter.toString
          else if !more.isEmpty then
            setVariable "OPTARG" (String.ofList more)
            found (index + 1, 0) name letter.toString
          else
            match words[index]? with
            | some argument =>
              setVariable "OPTARG" argument
              found (index + 2, 0) name letter.toString
            | none =>
              if silent then
                setVariable "OPTARG" letter.toString
                found (index + 1, 0) name ":"
              else
                complain ("No arg for -" ++ letter.toString ++ " option")
                change fun p => p.withVariable "OPTARG" none
                found (index + 1, 0) name "?"
        | (_, []) => unknown silent letter next name
  | _ => fail "Usage: getopts optstring var [arg]"
where
  settle (place : Nat × Nat) (name value : String) : Run Unit := do
    setVariable "OPTIND" (toString place.1)
    change fun p => { p with optionPlace := place }
    setVariable name value
  found (place : Nat × Nat) (name value : String) : Run Nat := do
    settle place name value
    return 0
  finished (index : Nat) (name : String) : Run Nat := do
    settle (index, 0) name "?"
    change fun p => p.withVariable "OPTARG" none
    return 1
  unknown (silent : Bool) (letter : Char) (next : Nat × Nat) (name : String) : Run Nat := do
    if silent then setVariable "OPTARG" letter.toString
    else
      complain ("Illegal option -" ++ letter.toString)
      change fun p => p.withVariable "OPTARG" none
    found next name "?"

end Scriptwright.Shell.Builtin
