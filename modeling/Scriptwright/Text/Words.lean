import Scriptwright.Text.Category

/-!
Blank-separated words, trimming, and lines.
-/
namespace Scriptwright.Text

def trimStart (cs : List Char) : List Char := cs.dropWhile isBlank

def dropEndWhile (p : Char → Bool) (cs : List Char) : List Char := (cs.reverse.dropWhile p).reverse

def trimEnd (cs : List Char) : List Char := dropEndWhile isBlank cs

def trim (cs : List Char) : List Char := trimEnd (trimStart cs)

def isBlankText (cs : List Char) : Bool := cs.all isBlank

/-- The words read so far from the right: the one still growing, then the finished ones. -/
def wordsStep (c : Char) : List Char × List (List Char) → List Char × List (List Char)
  | (current, finished) =>
    if isBlank c then
      match current with
      | [] => ([], finished)
      | _ => ([], current :: finished)
    else (c :: current, finished)

/-- Maximal runs of characters that are not blank, in order. -/
def words (cs : List Char) : List (List Char) :=
  match cs.foldr wordsStep ([], []) with
  | ([], finished) => finished
  | (current, finished) => current :: finished

/-- The word with its first letter large, if that is an ASCII letter. -/
def capitalized : List Char → List Char
  | [] => []
  | c :: cs => c.toUpper :: cs

def unwords (ws : List (List Char)) : List Char := List.intercalate [' '] ws

def lineStep (c : Char) : List (List Char) → List (List Char)
  | [] => [[c]]
  | piece :: pieces => if c = '\n' then ['\n'] :: piece :: pieces else (c :: piece) :: pieces

def linePieces (cs : List Char) : List (List Char) := cs.foldr lineStep []

/-- A line without its line feed and without one carriage return before that. -/
def dropLineEnd (piece : List Char) : List Char :=
  match piece.reverse with
  | '\n' :: '\r' :: rest => rest.reverse
  | '\n' :: rest => rest.reverse
  | _ => piece

/-- Lines without their ends; a final line feed starts no further line. -/
def lines (cs : List Char) : List (List Char) := (linePieces cs).map dropLineEnd

end Scriptwright.Text
