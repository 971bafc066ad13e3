import Scriptwright.Text.Search
import Scriptwright.Text.Words

/-!
The line in which a script declares what it depends on.
-/
namespace Scriptwright.Template

def declarationMark : List Char := "Dependencies:".toList

/-- What follows the mark in a line that starts with it, comment signs and blanks aside. -/
def declaration? (line : List Char) : Option (List Char) :=
  let inner := (Text.trim line).dropWhile (· == '#')
  Text.dropOpening? declarationMark (Text.trimStart inner)

def declaredNames (list : List Char) : List String :=
  let pieces := (Text.splitAt (· == ',') list).map Text.trim
  (pieces.filter fun p => !p.isEmpty).map String.ofList

def declaredDependencies? (code : String) : Option (List String) :=
  (Text.lines code.toList).findSome? fun line => (declaration? line).map declaredNames

end Scriptwright.Template
