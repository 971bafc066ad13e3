import Scriptwright.Markup.Piece
import Scriptwright.Markup.Trimming

/-!
Reading template source: its pieces put together into branches and loops. Every tag that opens a
body has to find the tag that closes it.
-/
namespace Scriptwright.Markup

/-- How a body ended: at the end of the source or at a tag that belongs to an enclosing one. -/
inductive Ending where
  | source
  | elif (dashes : Dashes) (condition : Expr)
  | else (dashes : Dashes)
  | endIf (dashes : Dashes)
  | endFor (dashes : Dashes)
  | endFilter (dashes : Dashes)

mutual

def body? : Nat → List Node → List Piece → Option (List Node × Ending × List Piece)
  | 0, _, _ => none
  | fuel + 1, done, pieces =>
    match pieces with
    | [] => some (done.reverse, .source, [])
    | .whole node :: rest => body? fuel (node :: done) rest
    | .ifTag dashes e :: rest => do
      let (yes, alternative, rest) ← branch? fuel rest
      body? fuel (.branch dashes e yes alternative :: done) rest
    | .forTag dashes key item container :: rest => do
      let (body, ending, rest) ← body? fuel [] rest
      let (empty, closing, rest) ← emptyBody? fuel [] ending rest
      body? fuel (.loop dashes key item container body empty closing :: done) rest
    | .filterTag dashes filter arguments :: rest => do
      match ← body? fuel [] rest with
      | (body, .endFilter closing, rest) =>
        body? fuel (.filtered dashes filter arguments body closing :: done) rest
      | _ => none
    | .elifTag dashes e :: rest => some (done.reverse, .elif dashes e, rest)
    | .elseTag dashes :: rest => some (done.reverse, .else dashes, rest)
    | .endIf dashes :: rest => some (done.reverse, .endIf dashes, rest)
    | .endFor dashes :: rest => some (done.reverse, .endFor dashes, rest)
    | .endFilter dashes :: rest => some (done.reverse, .endFilter dashes, rest)

def branch? : Nat → List Piece → Option (List Node × Alternative × List Piece)
  | 0, _ => none
  | fuel + 1, pieces => do
    let (yes, ending, rest) ← body? fuel [] pieces
    match ending with
    | .endIf dashes => return (yes, .finish dashes, rest)
    | .elif dashes e =>
      let (next, alternative, rest) ← branch? fuel rest
      return (yes, .elif dashes e next alternative, rest)
    | .else dashes =>
      match ← body? fuel [] rest with
      | (no, .endIf closing, rest) => return (yes, .otherwise dashes no closing, rest)
      | _ => none
    | _ => none

/-- What a loop has for an empty container: the body behind the last of its else tags. -/
def emptyBody? : Nat → List Node → Ending → List Piece →
    Option (List Node × Dashes × List Piece)
  | 0, _, _, _ => none
  | fuel + 1, empty, ending, pieces =>
    match ending with
    | .endFor dashes => some (empty, dashes, pieces)
    | .else _ => do
      let (body, ending, rest) ← body? fuel [] pieces
      emptyBody? fuel body ending rest
    | _ => none

end

/-- The body of a template, or nothing when its source is not well formed. -/
def parseChars? (cs : List Char) : Option (List Node) := do
  let pieces ← pieces? (cs.length + 1) cs
  match body? (3 * pieces.length + 3) [] pieces with
  | some (nodes, .source, _) => some (trimmedBody false false nodes)
  | _ => none

def parse? (source : String) : Option (List Node) := parseChars? source.toList

end Scriptwright.Markup
