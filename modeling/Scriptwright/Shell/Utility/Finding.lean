import Scriptwright.Shell.Glob
import Scriptwright.Shell.Utility.Names

/-!
Finding files below directories.
-/
namespace Scriptwright.Shell.Utility

/-- A test that `find` makes on what it comes across. -/
inductive FileTest where
  | named (pattern : List GlobItem) (whole folds : Bool)
  | isDirectory (wanted : Bool)
  | isEmpty
  | isExecutable
  | never
  | always
  | not (t : FileTest)
  | both (t u : FileTest)
  | either (t u : FileTest)

def FileTest.holds (files : FileTree) (path : String) : FileTest → Bool
  | .named pattern whole folds =>
    let cs := (if whole then path else lastStep path).toList
    globMatches pattern (if folds then cs.map Char.toLower else cs)
  | .isDirectory wanted => files.isDirectory (pathOf path) == wanted
  | .isEmpty =>
    match files.find (pathOf path) with
    | .ok .directory => (namesIn files path).isEmpty
    | .ok (.file content _) => content.size = 0
    | .error _ => false
  | .isExecutable =>
    match files.find (pathOf path) with
    | .ok (.file _ executable) => executable
    | .ok .directory => true
    | .error _ => false
  | .never => false
  | .always => true
  | .not t => !t.holds files path
  | .both t u => t.holds files path && u.holds files path
  | .either t u => t.holds files path || u.holds files path

structure Errand where
  test : FileTest := .always
  least : Nat := 0
  most : Option Nat := none

def globOfText (text : String) : List GlobItem := globOf (text.toList.map (false, ·))

def plainTests : List (String × FileTest) :=
  [("-print", .always), ("-true", .always), ("-empty", .isEmpty), ("-executable", .isExecutable),
    ("-false", .never)]

def lowered (text : String) : String := String.ofList (text.toList.map Char.toLower)

def Errand.withValue? (negated : Bool) (e : Errand) (word value : String) :
    Option (Except String Errand) :=
  let add (t : FileTest) : Option (Except String Errand) :=
    some (.ok { e with test := .both e.test (if negated then .not t else t) })
  match word with
  | "-name" => add (.named (globOfText value) false false)
  | "-iname" => add (.named (globOfText (lowered value)) false true)
  | "-path" | "-wholename" => add (.named (globOfText value) true false)
  | "-type" =>
    if value = "f" || value = "d" then add (.isDirectory (value = "d"))
    else if ["b", "c", "p", "l", "s"].contains value then add .never
    else some (.error ("Unknown argument to -type: " ++ value))
  | "-mindepth" => some (.ok { e with least := (value.toNat?).getD 0 })
  | "-maxdepth" => some (.ok { e with most := value.toNat? })
  | _ => none

def errandOf : Bool → List String → Errand → Except String Errand
  | _, [], e => .ok e
  | negated, word :: rest, e =>
    match plainTests.lookup word with
    | some t => errandOf false rest { e with test := .both e.test (if negated then .not t else t) }
    | none =>
      if word = "!" || word = "-not" then errandOf (!negated) rest e
      else if word = "-a" || word = "-and" then errandOf negated rest e
      else if word = "-o" || word = "-or" then do
        let others ← errandOf false rest { e with test := .always }
        return { others with test := .either e.test others.test }
      else
        match rest with
        | [] =>
          match e.withValue? negated word "f" with
          | some _ => .error ("missing argument to \x60" ++ word ++ "'")
          | none => .error (unknown word)
        | value :: rest =>
          match e.withValue? negated word value with
          | some (.ok e) => errandOf false rest e
          | some (.error message) => .error message
          | none => .error (unknown word)
where
  unknown (word : String) : String :=
    if word.startsWith "-" then "unknown predicate \x60" ++ word ++ "'"
    else "paths must precede expression: \x60" ++ word ++ "'"

def walk (files : FileTree) : Nat → Nat → String → List (Nat × String)
  | 0, _, _ => []
  | fuel + 1, depth, path =>
    (depth, path) ::
      if files.isDirectory (pathOf path) then
        (namesIn files path).flatMap fun n => walk files fuel (depth + 1) (below path n)
      else []

def find (arguments : List String) : Run Nat := do
  let (paths, words) := arguments.span fun w =>
    !w.startsWith "-" && w ≠ "!" && w ≠ "("
  match errandOf false words {} with
  | .error text =>
    complain ("find: " ++ text)
    return 1
  | .ok errand =>
    let files ← filesHere
    let paths := if paths.isEmpty then ["."] else paths
    paths.foldlM (fun status path => do
      match files.find (pathOf path) with
      | .error e =>
        complain ("find: " ++ quoted path ++ ": " ++ plainReason e)
        return 1
      | .ok _ =>
        let found := (walk files (files.nodes.length + 1) 0 path).filter fun (depth, p) =>
          errand.least ≤ depth && errand.most.all (depth ≤ ·) && errand.test.holds files p
        say (unlines (found.map Prod.snd))
        return status) 0

end Scriptwright.Shell.Utility
