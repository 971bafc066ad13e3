import Scriptwright.Shell.Reading.Token

/-!
Reading commands.
-/
namespace Scriptwright.Shell.Reading

/-- What a list of commands is part of: the line it ends with, a command of several parts, or
something that may hold no command at all. -/
inductive ListKind where
  | line
  | inner
  | optional
deriving DecidableEq

def endsList : Token → Bool
  | .finish => true
  | .operator o => [")", ";;"].contains o
  | .reserved r => ["do", "done", "elif", "else", "esac", "fi", "then", "\x7d"].contains r
  | _ => false

/-- Commands that a function cannot take the name of. -/
def specialNames : List String :=
  [".", ":", "break", "continue", "eval", "exec", "exit", "export", "local", "readonly", "return",
    "set", "shift", "times", "trap", "unset"]

def redirectOf (commands : Reading Command) (stream : Nat) (sign : String) : Reading Redirect := do
  if sign = "<<" || sign = "<<-" then
    match ← rawToken commands .mark with
    | .word w =>
      let s ← get
      let a : Awaited := ⟨s.nextDocument, Word.literal w, w.any (·.isQuoted), sign = "<<-"⟩
      set { s with awaited := s.awaited ++ [a], nextDocument := s.nextDocument + 1 }
      return .document stream a.number
    | t => unexpected t none
  else
    match ← rawToken commands .word with
    | .word w =>
      match sign with
      | "<" => return .file stream .input w
      | "<>" => return .file stream .both w
      | ">>" => return .file stream .append w
      | "<&" | ">&" => return .copy stream w
      | _ => return .file stream .output w
    | t => unexpected t none

def items (commands : Reading Command) : Nat → Reading (List Word)
  | 0 => return []
  | fuel + 1 => do
    match ← token commands false false with
    | .word w => return w :: (← items commands fuel)
    | .newline | .operator ";" => return []
    | t => unexpected t none

/-- The patterns in front of a branch, behind the token `t`. -/
def patterns (commands : Reading Command) : Nat → Token → Reading (List Word)
  | 0, t => unexpected t none
  | fuel + 1, t => do
    let p : Word ← match t with
      | .word w => pure w
      | .reserved r => pure [.text false r]
      | _ => pure []
    match ← token commands false false with
    | .operator "|" => return p :: (← patterns commands fuel (← token commands false false))
    | .operator ")" => return [p]
    | t => unexpected t (some "\")\"")

def expect (commands : Reading Command) (wanted : Token) : Reading Unit := do
  let t ← token commands false false
  if t.label != wanted.label then unexpected t (some wanted.label)

def redirects (commands : Reading Command) : Nat → Reading (List Redirect)
  | 0 => return []
  | fuel + 1 => do
    match ← token commands true false with
    | .redirect stream sign =>
      let r ← redirectOf commands stream sign
      return r :: (← redirects commands fuel)
    | t =>
      push t
      return []

def withRedirects (commands : Reading Command) (line : Nat) (c : Command) : Reading Command := do
  match ← redirects commands (← get).rest.length.succ with
  | [] => return c
  | rs => return .redirected line c rs

mutual

/-- Commands in front of the end of a list; nothing at the end of the source. -/
def list : Nat → ListKind → Bool → List Command → Reading (Option Command)
  | 0, _, _, _ => fault "end of file unexpected"
  | fuel + 1, kind, first, done => do
    let commands : Reading Command := return (← list fuel .optional true []).getD .nothing
    let finished : Reading (Option Command) := return some (.ofList done.reverse)
    match ← token commands true (kind != .line) with
    | .newline => finished
    | .finish =>
      push .finish
      if kind = .line && done.isEmpty then return none else finished
    | t =>
      push t
      if endsList t && (kind = .optional || (kind = .inner && !first)) then finished
      else
        let c ← chain fuel
        let finished : Reading (Option Command) := return some (.ofList (c :: done).reverse)
        match ← token commands false false with
        | .operator "&" => list fuel kind false (.aside c :: done)
        | .operator ";" => list fuel kind false (c :: done)
        | .newline =>
          push .newline
          list fuel kind false (c :: done)
        | .finish =>
          push .finish
          finished
        | t =>
          if kind = .line then unexpected t none
          push t
          finished

def inner : Nat → Reading Command
  | 0 => fault "end of file unexpected"
  | fuel + 1 => return (← list fuel .inner true []).getD .nothing

/-- Pipelines joined by `&&` and `||`, grouped from the left. -/
def chain : Nat → Reading Command
  | 0 => fault "end of file unexpected"
  | fuel + 1 => do
    let c ← pipeline fuel false
    joined fuel c

def joined : Nat → Command → Reading Command
  | 0, c => return c
  | fuel + 1, c => do
    let commands : Reading Command := return (← list fuel .optional true []).getD .nothing
    match ← token commands false false with
    | .operator "&&" => joined fuel (.both c (← pipeline fuel true))
    | .operator "||" => joined fuel (.either c (← pipeline fuel true))
    | t =>
      push t
      return c

def pipeline : Nat → Bool → Reading Command
  | 0, _ => fault "end of file unexpected"
  | fuel + 1, skipsLines => do
    let commands : Reading Command := return (← list fuel .optional true []).getD .nothing
    match ← token commands true skipsLines with
    | .reserved "!" =>
      let c ← command fuel false
      return .negate (← stages fuel [c])
    | t =>
      push t
      let c ← command fuel false
      stages fuel [c]

def stages : Nat → List Command → Reading Command
  | 0, _ => fault "end of file unexpected"
  | fuel + 1, done => do
    let commands : Reading Command := return (← list fuel .optional true []).getD .nothing
    match ← token commands false false with
    | .operator "|" =>
      let c ← command fuel true
      stages fuel (c :: done)
    | t =>
      push t
      match done with
      | [c] => return c
      | cs => return .pipeline cs.reverse

def command : Nat → Bool → Reading Command
  | 0, _ => fault "end of file unexpected"
  | fuel + 1, skipsLines => do
    let commands : Reading Command := return (← list fuel .optional true []).getD .nothing
    let t ← token commands true skipsLines
    let line := (← get).line
    match t with
    | .reserved "if" =>
      let c ← conditional fuel
      withRedirects commands line c
    | .reserved "while" | .reserved "until" =>
      let test ← inner fuel
      expect commands (.reserved "do")
      let body ← inner fuel
      expect commands (.reserved "done")
      withRedirects commands line (.loop (t.label == "\"until\"") test body)
    | .reserved "for" =>
      let name ← match ← token commands false false with
        | .word w =>
          match Word.bare? w with
          | some name => if isName name then pure name else fault "Bad for loop variable"
          | none => fault "Bad for loop variable"
        | _ => fault "Bad for loop variable"
      let ws ← match ← token commands true true with
        | .reserved "in" => items commands (← get).rest.length.succ
        | .operator ";" => pure [[.parameter true "@" .plain []]]
        | t =>
          push t
          pure [[.parameter true "@" .plain []]]
      match ← token commands true true with
      | .reserved "do" => pure ()
      | t => unexpected t (some "\"do\"")
      let body ← inner fuel
      expect commands (.reserved "done")
      withRedirects commands line (.forEach line name ws body)
    | .reserved "case" =>
      let subject ← match ← token commands false false with
        | .word w => pure w
        | t => unexpected t (some "word")
      match ← token commands true true with
      | .reserved "in" => pure ()
      | t => unexpected t (some "\"in\"")
      let bs ← branches fuel
      withRedirects commands line (.choose line subject bs)
    | .operator "(" =>
      let c ← inner fuel
      expect commands (.operator ")")
      withRedirects commands line (.apart c)
    | .reserved "\x7b" =>
      let c ← inner fuel
      expect commands (.reserved "\x7d")
      withRedirects commands line c
    | .word _ | .redirect _ _ =>
      push t
      simple fuel line [] [] []
    | t => unexpected t none

def conditional : Nat → Reading Command
  | 0 => fault "end of file unexpected"
  | fuel + 1 => do
    let commands : Reading Command := return (← list fuel .optional true []).getD .nothing
    let test ← inner fuel
    expect commands (.reserved "then")
    let yes ← inner fuel
    match ← token commands false false with
    | .reserved "elif" => return .branch test yes (← conditional fuel)
    | .reserved "else" =>
      let no ← inner fuel
      expect commands (.reserved "fi")
      return .branch test yes no
    | .reserved "fi" => return .branch test yes .nothing
    | t => unexpected t (some "\"fi\"")

def branches : Nat → Reading (List (List Word × Command))
  | 0 => fault "end of file unexpected"
  | fuel + 1 => do
    let commands : Reading Command := return (← list fuel .optional true []).getD .nothing
    match ← token commands true true with
    | .reserved "esac" => return []
    | t =>
      let t ← match t with
        | .operator "(" => token commands false false
        | t => pure t
      let ps ← patterns commands (← get).rest.length.succ t
      let c := (← list fuel .optional true []).getD .nothing
      match ← token commands true true with
      | .reserved "esac" => return [(ps, c)]
      | .operator ";;" => return (ps, c) :: (← branches fuel)
      | t => unexpected t (some "\";;\"")

/-- Settings, words and redirections, behind those read so far (reversed). -/
def simple : Nat → Nat → List (String × Word) → List Word → List Redirect → Reading Command
  | 0, _, _, _, _ => fault "end of file unexpected"
  | fuel + 1, line, settings, words, rs => do
    let commands : Reading Command := return (← list fuel .optional true []).getD .nothing
    match ← token commands false false with
    | .word w =>
      match if words.isEmpty then Word.setting? w else none with
      | some setting => simple fuel line (setting :: settings) words rs
      | none => simple fuel line settings (w :: words) rs
    | .redirect stream sign =>
      let r ← redirectOf commands stream sign
      simple fuel line settings words (r :: rs)
    | t =>
      match t, settings, words, rs with
      | .operator "(", [], [w], [] =>
        expect commands (.operator ")")
        match Word.bare? w with
        | some name =>
          if isName name && !specialNames.contains name then
            return .define name (← command fuel true)
          else fault "Bad function name"
        | none => fault "Bad function name"
      | t, settings, words, rs =>
        push t
        return .simple line settings.reverse words.reverse rs.reverse

end

/-- The next line of commands, with those lines that belong to it; nothing at the end. -/
def line (s : Source) : Except ReadFault (Option Command × Source) :=
  (list (4 * s.rest.length + 16) .line true []).run s

end Scriptwright.Shell.Reading
