import Scriptwright.Text.Search

/-!
Paths as text. Steps are separated by slashes; a path that begins with a slash is absolute, any
other is relative to some directory.
-/
namespace Scriptwright.Path

def isAbsolute (path : String) : Bool := Text.beginsWith path "/"

/-- The path as seen from `base`; an absolute path stays as it is. -/
def join (base path : String) : String :=
  if isAbsolute path || base.isEmpty then path
  else if Text.finishesWith base "/" then base ++ path
  else base ++ "/" ++ path

def pieces (path : String) : List String :=
  (Text.splitAt (· == '/') path.toList).map String.ofList

/-- Drops from the right what does not count as a step: empty pieces and single dots. -/
def dropIdle (pieces : List String) : List String :=
  (pieces.reverse.dropWhile fun p => p = "" || p = ".").reverse

def splitStep? (path : String) : Option (List String × String) :=
  match (dropIdle (pieces path)).reverse with
  | [] => none
  | last :: before => some (before.reverse, last)

def fileName? (path : String) : Option String :=
  match splitStep? path with
  | some (_, "..") | none => none
  | some (_, name) => some name

/-- What follows the last dot of the name, unless the name begins with that dot. -/
def extension? (path : String) : Option String :=
  (fileName? path).bind fun name =>
    match Text.splitLast? '.' name.toList with
    | none | some ([], _) => none
    | some (_, ext) => some (String.ofList ext)

def startsHere (path : String) : Bool := path = "." || Text.beginsWith path "./"

def parent? (path : String) : Option String :=
  match splitStep? path with
  | none => if startsHere path then some "" else none
  | some (before, _) =>
    match dropIdle before with
    | [] =>
      if isAbsolute path then some "/" else if startsHere path then some "." else some ""
    | kept => some (Text.joinWith "/" kept)

end Scriptwright.Path
