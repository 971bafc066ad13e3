import Scriptwright.Markup.Expr.Reader

/-!
Template source as a row of pieces. Output stands in double braces, tags in a brace with a percent
sign, comments in a brace with a hash, and each delimiter may hold a dash. Behind the word of a tag
that goes on, there has to be a gap.

The language is the part of Tera that a template needs to stand alone. The tags `include`, `block`,
`macro`, `extends` and `import`, by which templates refer to each other or are divided, are not
read.
-/
namespace Scriptwright.Markup
open Reading

inductive Piece where
  /-- A node without a body. -/
  | whole (node : Node)
  | ifTag (dashes : Dashes) (condition : Expr)
  | elifTag (dashes : Dashes) (condition : Expr)
  | elseTag (dashes : Dashes)
  | endIf (dashes : Dashes)
  | forTag (dashes : Dashes) (key : Option String) (item : String) (container : Expr)
  | endFor (dashes : Dashes)
  | filterTag (dashes : Dashes) (filter : String) (arguments : ExprArguments)
  | endFilter (dashes : Dashes)

def outputOpen : String := "\x7b\x7b"

def outputClose : String := "\x7d\x7d"

def tagOpen : String := "\x7b%"

def tagClose : String := "%\x7d"

def commentOpen : String := "\x7b#"

def commentClose : String := "#\x7d"

/-- An opening delimiter, and whether a dash is in it. -/
def opening (delimiter : String) : Reading Bool := do
  exact delimiter
  holds (exact "-")

def exactClosing (delimiter : String) : Reading Bool :=
  (do exact ("-" ++ delimiter); return true) <|> (do exact delimiter; return false)

def closing (delimiter : String) : Reading Bool := do
  gap
  exactClosing delimiter

def wordTag (word : String) : Reading Dashes := do
  let before ← opening tagOpen
  token word
  return ⟨before, ← closing tagClose⟩

/-- A tag whose word is followed by a gap and something else. -/
def longTag {α : Type} (word : String) (read : Reading α) : Reading (Dashes × α) := do
  let before ← opening tagOpen
  token word
  someGap
  let a ← read
  return (⟨before, ← closing tagClose⟩, a)

def loopHead : Reading (Option String × String × Expr) := do
  let first ← exactName
  let second ← optional (do exact ","; name)
  someGap
  exact "in"
  someGap
  let container ← deep filteredSum <|> deep filteredArray
  return match second with
    | some item => (some first, item, container)
    | none => (none, first, container)

def assignment : Reading (String × Expr) := do
  let n ← exactName
  token "="
  return (n, ← deep value)

def filterHead : Reading (String × ExprArguments) := deep call <|> (do return (← name, []))

/-- The text of a raw body up to the tag that ends it; `done` is reversed. -/
def rawBody? (done : List Char) : List Char → Option ((List Char × Dashes) × List Char)
  | [] => none
  | c :: cs =>
    match wordTag "endraw" (c :: cs) with
    | some (dashes, rest) => some ((done.reverse, dashes), rest)
    | none => rawBody? (c :: done) cs

def raw : Reading Node := do
  let opening ← wordTag "raw"
  match ← rawBody? [] with
  | ([], _) => failure
  | (content, closing) => return .raw opening content closing

def skipComment : List Char → Option (Bool × List Char)
  | [] => none
  | c :: cs =>
    match exactClosing commentClose (c :: cs) with
    | some found => some found
    | none => skipComment cs

def comment : Reading Node := do
  let before ← opening commentOpen
  match ← get with
  | [] => failure
  | cs =>
    match exactClosing commentClose cs with
    | some _ => failure
    | none => return .comment ⟨before, ← skipComment⟩

def output : Reading Node := do
  let before ← opening outputOpen
  let e ← deep value
  return .output ⟨before, ← closing outputClose⟩ e

def tag : Reading Piece :=
  firstOf [
    (do return .whole (← raw)),
    (do let (d, n, e) ← longTag "set" assignment; return .whole (.assign d false n e)),
    (do let (d, n, e) ← longTag "set_global" assignment; return .whole (.assign d true n e)),
    (do return .whole (.leave (← wordTag "break"))),
    (do return .whole (.skip (← wordTag "continue"))),
    (do let (d, key, item, e) ← longTag "for" loopHead; return .forTag d key item e),
    (do return .endFor (← wordTag "endfor")),
    (do let (d, e) ← longTag "if" (deep logic); return .ifTag d e),
    (do let (d, e) ← longTag "elif" (deep logic); return .elifTag d e),
    (do return .elseTag (← wordTag "else")),
    (do return .endIf (← wordTag "endif")),
    (do let (d, n, es) ← longTag "filter" filterHead; return .filterTag d n es),
    (do return .endFilter (← wordTag "endfilter"))]

/-- Text up to the next delimiter; `done` is reversed. -/
def textRun (done : List Char) : List Char → List Char × List Char
  | '\x7b' :: c :: cs =>
    if c = '\x7b' ∨ c = '%' ∨ c = '#' then (done.reverse, '\x7b' :: c :: cs)
    else textRun ('\x7b' :: done) (c :: cs)
  | c :: cs => textRun (c :: done) cs
  | [] => (done.reverse, [])

def piece : Reading Piece := do
  match ← get with
  | '\x7b' :: '#' :: _ => return .whole (← comment)
  | '\x7b' :: '\x7b' :: _ => return .whole (← output)
  | '\x7b' :: '%' :: _ => tag
  | cs =>
    let (content, rest) := textRun [] cs
    set rest
    return .whole (.text content)

def pieces? : Nat → List Char → Option (List Piece)
  | _, [] => some []
  | 0, _ :: _ => none
  | fuel + 1, cs => do
    let (piece, rest) ← piece cs
    let more ← pieces? fuel rest
    return piece :: more

end Scriptwright.Markup
