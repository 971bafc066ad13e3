import Scriptwright.Storage.Path
import Scriptwright.Text.Ascending

/-!
Files and directories, the operations that programs perform on them, and how these fail.
-/
namespace Scriptwright

inductive StorageError where
  | notFound
  | exists
  | notADirectory
  | isADirectory
  | nameTooLong
  | invalidName
  | notText
deriving DecidableEq, Repr

def StorageError.message : StorageError → String
  | .notFound => "No such file or directory (os error 2)"
  | .exists => "File exists (os error 17)"
  | .notADirectory => "Not a directory (os error 20)"
  | .isADirectory => "Is a directory (os error 21)"
  | .nameTooLong => "File name too long (os error 36)"
  | .invalidName => "file name contained an unexpected NUL byte"
  | .notText => "stream did not contain valid UTF-8"

inductive FileNode where
  | directory
  | file (content : ByteArray) (executable : Bool)

def FileNode.isDirectory : FileNode → Bool
  | .directory => true
  | .file _ _ => false

/-- The way from the root to a file or directory: its steps with slashes between them. -/
abbrev Location := String

namespace Location

def root : Location := ""

def inside (outer : Location) (name : String) : Location :=
  if outer = root then name else outer ++ "/" ++ name

/-- The directory around a place; the root is its own. -/
def outer (loc : Location) : Location :=
  match Text.splitLast? '/' loc.toList with
  | some (steps, _) => String.ofList steps
  | none => root

def name (loc : Location) : String :=
  match Text.splitLast? '/' loc.toList with
  | some (_, last) => String.ofList last
  | none => loc

def isWithin (outer loc : Location) : Bool :=
  outer = root || loc = outer || Text.beginsWith loc (outer ++ "/")

end Location

/-- Every file and directory below the root, and the directory that relative paths start from. -/
structure FileTree where
  nodes : List (Location × FileNode)
  here : Location

namespace FileTree

def get? (t : FileTree) (loc : Location) : Option FileNode :=
  if loc = Location.root then some .directory else t.nodes.lookup loc

def set (t : FileTree) (loc : Location) (node : FileNode) : FileTree :=
  { t with nodes := (loc, node) :: t.nodes.filter (·.1 ≠ loc) }

theorem lookup_filter {loc other : Location} (h : other ≠ loc)
    (nodes : List (Location × FileNode)) :
    (nodes.filter (·.1 ≠ loc)).lookup other = nodes.lookup other := by
  induction nodes with
  | nil => rfl
  | cons node rest ih =>
    obtain ⟨l, node⟩ := node
    by_cases hl : l = loc
    · have hb : (other == l) = false := beq_eq_false_iff_ne.mpr fun e => h (e.trans hl)
      rw [List.filter_cons_of_neg (by simp [hl]), ih, List.lookup_cons, hb]
    · rw [List.filter_cons_of_pos (by simp [hl]), List.lookup_cons, List.lookup_cons, ih]

theorem get?_set (t : FileTree) (loc : Location) (node : FileNode) {other : Location}
    (h : other ≠ Location.root) :
    (t.set loc node).get? other = if other = loc then some node else t.get? other := by
  unfold get? set
  rw [if_neg h, if_neg h, List.lookup_cons]
  by_cases hl : other = loc
  · rw [if_pos hl, beq_iff_eq.mpr hl]
  · rw [if_neg hl, beq_eq_false_iff_ne.mpr hl]
    exact lookup_filter hl t.nodes

def maxNameBytes : Nat := 255

def maxPathBytes : Nat := 4095

def step (t : FileTree) (loc : Location) (piece : String) : Except StorageError Location :=
  match t.get? loc with
  | none => .error .notFound
  | some (.file _ _) => .error .notADirectory
  | some .directory =>
    if piece = "" ∨ piece = "." then .ok loc
    else if piece = ".." then .ok (Location.outer loc)
    else if maxNameBytes < piece.utf8ByteSize then .error .nameTooLong
    else .ok (Location.inside loc piece)

/-- Where the first step of a path is taken, if the system takes the path at all. -/
def start (t : FileTree) (path : String) : Except StorageError Location :=
  if path.toList.contains '\x00' then .error .invalidName
  else if maxPathBytes < path.utf8ByteSize then .error .nameTooLong
  else if path = "" then .error .notFound
  else .ok (if Path.isAbsolute path then Location.root else t.here)

/-- The place a path leads to; what is there may still be missing. -/
def locate (t : FileTree) (path : String) : Except StorageError Location := do
  let loc ← t.start path
  (Path.pieces path).foldlM t.step loc

def find (t : FileTree) (path : String) : Except StorageError FileNode := do
  let loc ← t.locate path
  match t.get? loc with
  | some node => return node
  | none => throw .notFound

def contains (t : FileTree) (path : String) : Bool :=
  match t.find path with
  | .ok _ => true
  | .error _ => false

def isDirectory (t : FileTree) (path : String) : Bool :=
  match t.find path with
  | .ok node => node.isDirectory
  | .error _ => false

def readText (t : FileTree) (path : String) : Except StorageError String := do
  match ← t.find path with
  | .directory => throw .isADirectory
  | .file content _ =>
    match String.fromUTF8? content with
    | some text => return text
    | none => throw .notText

/-- The path without slashes at its end, and whether it had some. -/
def trimmedPath (path : String) : String × Bool :=
  match (path.toList.reverse.dropWhile (· == '/')).reverse with
  | [] => (path, false)
  | cs => (String.ofList cs, Text.finishesWith path "/")

def locateNew (t : FileTree) (path : String) : Except StorageError Location := do
  let _ ← t.start path
  t.locate (trimmedPath path).1

/-- Writes a file; one that exists keeps its permissions. A slash at the end asks for a
directory. -/
def write (t : FileTree) (path : String) (content : ByteArray) : Except StorageError FileTree := do
  let loc ← t.locateNew path
  if (trimmedPath path).2 then throw .isADirectory
  match t.get? loc with
  | some .directory => throw .isADirectory
  | some (.file _ executable) => return t.set loc (.file content executable)
  | none => return t.set loc (.file content false)

def writeText (t : FileTree) (path text : String) : Except StorageError FileTree :=
  t.write path text.toUTF8

def markExecutable (t : FileTree) (path : String) : Except StorageError FileTree := do
  let loc ← t.locate path
  match t.get? loc with
  | some (.file content _) => return t.set loc (.file content true)
  | some .directory => return t
  | none => throw .notFound

def makeDirectory (t : FileTree) (path : String) : Except StorageError FileTree := do
  let loc ← t.locateNew path
  match t.get? loc with
  | some _ => throw .exists
  | none =>
    match t.get? (Location.outer loc) with
    | some .directory => return t.set loc .directory
    | some (.file _ _) => throw .notADirectory
    | none => throw .notFound

/-- Goes one step, and makes a directory where nothing is. -/
def stepOrMake (t : FileTree) (loc : Location) (piece : String) :
    Except StorageError (FileTree × Location) := do
  let loc ← t.step loc piece
  match t.get? loc with
  | some _ => return (t, loc)
  | none => return (t.set loc .directory, loc)

/-- Makes a directory with those above it, unless it is there. -/
def makeDirectories (t : FileTree) (path : String) : Except StorageError FileTree := do
  if path = "" then return t
  let start ← t.start path
  let (t, loc) ← (Path.pieces (trimmedPath path).1).foldlM
    (fun (t, loc) piece => t.stepOrMake loc piece) (t, start)
  match t.get? loc with
  | some (.file _ _) => throw .exists
  | _ => return t

/-- Names of the files directly inside a directory, in ascending order. -/
def fileNames (t : FileTree) (path : String) : List String :=
  match t.locate path with
  | .error _ => []
  | .ok loc =>
    let inside := t.nodes.filterMap fun (l, node) =>
      match node with
      | .file _ _ => if Location.outer l = loc then some (Location.name l) else none
      | .directory => none
    Text.ascending inside

end FileTree

end Scriptwright
