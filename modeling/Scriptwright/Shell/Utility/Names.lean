import Scriptwright.Shell.Utility.Display

/-!
Programs on the names of files, and what names there are in a directory.
-/
namespace Scriptwright.Shell.Utility

/-- A path without slashes at its end; slashes alone are one. -/
def withoutSlashes (path : String) : List Char :=
  match (path.toList.reverse.dropWhile (· == '/')).reverse with
  | [] => if path = "" then [] else ['/']
  | cs => cs

def lastStep (path : String) : String :=
  let cs := withoutSlashes path
  if cs = ['/'] then "/" else String.ofList (cs.reverse.takeWhile (· != '/')).reverse

def withoutLastStep (path : String) : String :=
  let cs := withoutSlashes path
  if cs = ['/'] then "/"
  else
    match cs.reverse.dropWhile (· != '/') with
    | [] => "."
    | rest => String.ofList (withoutSlashes (String.ofList rest.reverse))

def withoutSuffix (suffix name : String) : String :=
  if name ≠ suffix && name.endsWith suffix then
    String.ofList (name.toList.take (name.length - suffix.length))
  else name

def basename : Utility :=
  withOptions "basename" ⟨"az".toList, "s".toList, [("multiple", 'a'), ("suffix", 's')]⟩ 1
    fun o => do
      let reveal (suffix path : String) : Run Unit := say (withoutSuffix suffix (lastStep path) ++ "\n")
      match o.operands with
      | [] => misused "basename" "missing operand" 1
      | first :: rest =>
        if o.has 'a' || o.has 's' then
          for path in o.operands do reveal ((o.value? 's').getD "") path
          return 0
        else
          match rest with
          | [] =>
            reveal "" first
            return 0
          | [suffix] =>
            reveal suffix first
            return 0
          | _ :: extra :: _ => misused "basename" ("extra operand " ++ quoted extra) 1

def dirname : Utility :=
  withOptions "dirname" ⟨"z".toList, [], []⟩ 1 fun o => do
    match o.operands with
    | [] => misused "dirname" "missing operand" 1
    | paths =>
      say (unlines (paths.map withoutLastStep))
      return 0

def below (directory name : String) : String :=
  if directory.endsWith "/" then directory ++ name else directory ++ "/" ++ name

def namesIn (files : FileTree) (path : String) : List String :=
  match files.locate (pathOf path) with
  | .error _ => []
  | .ok place =>
    Text.ascending <| files.nodes.filterMap fun (l, _) =>
      if l ≠ Location.root ∧ Location.outer l = place then some (ofText (Location.name l)) else none

/-- A path from the root without steps that lead nowhere new. -/
def absolute (files : FileTree) (path : String) : Except StorageError String := do
  let place ← files.locate (pathOf path)
  return "/" ++ ofText place

def realpath : Utility :=
  withOptions "realpath" ⟨"eLmPqsz".toList, [], []⟩ 1 fun o => do
    if o.operands.isEmpty then misused "realpath" "missing operand" 1
    else
      let files ← filesHere
      o.operands.foldlM (fun status path => do
        match absolute files path with
        | .ok full =>
          if o.has 'e' && !files.contains (pathOf path) then
            if !o.has 'q' then complain (ordinary "realpath" path .notFound)
            return 1
          say (full ++ "\n")
          return status
        | .error e =>
          if !o.has 'q' then complain (ordinary "realpath" path e)
          return 1) 0

def readlink : Utility :=
  withOptions "readlink" ⟨"efmnqsvz".toList, [], [("canonicalize", 'f')]⟩ 1 fun o => do
    if o.operands.isEmpty then misused "readlink" "missing operand" 1
    else
      let files ← filesHere
      o.operands.foldlM (fun status path => do
        match absolute files path with
        | .ok full =>
          if (o.has 'f' || o.has 'm') || (o.has 'e' && files.contains (pathOf path)) then
            say (full ++ if o.has 'n' then "" else "\n")
            return status
          else return 1
        | .error _ => return 1) 0

end Scriptwright.Shell.Utility
