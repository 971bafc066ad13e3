import Scriptwright.Shell.Utility.Names

/-!
What there is to be known about files without reading them.
-/
namespace Scriptwright.Shell.Utility

/-- The letters of a mode, as they stand in front of the names. -/
def modeText : FileNode → String
  | .directory => "drwxr-xr-x"
  | .file _ true => "-rwxr-xr-x"
  | .file _ false => "-rw-r--r--"

def nodeSize : FileNode → Nat
  | .directory => 4096
  | .file content _ => content.size

def blocks (node : FileNode) : Nat := (nodeSize node + 4095) / 4096 * 4

def longRows (files : FileTree) (rows : List (String × String)) : List String :=
  let known := rows.filterMap fun (name, path) =>
    match files.find (pathOf path) with
    | .ok node =>
      let links := if node.isDirectory then
          2 + ((namesIn files path).filter fun n => files.isDirectory (pathOf (below path n))).length
        else 1
      some (name, node, toString links)
    | .error _ => none
  let width (texts : List String) : Nat := (texts.map String.length).foldl max 0
  let forLinks := width (known.map (·.2.2))
  let forSize := width (known.map fun (_, node, _) => toString (nodeSize node))
  known.map fun (name, node, links) =>
    modeText node ++ " " ++ padLeft forLinks links ++ " root root " ++
      padLeft forSize (toString (nodeSize node)) ++ " Jan  1 00:00 " ++ name

def listed (o : Options) (files : FileTree) (rows : List (String × String)) : List String :=
  let rows := if o.has 'r' then rows.reverse else rows
  let rows := if o.has 'S' then
      let size (path : String) : Nat := match files.find (pathOf path) with
        | .ok node => nodeSize node
        | .error _ => 0
      rows.mergeSort fun a b => decide (size b.2 ≤ size a.2)
    else rows
  let marked := rows.map fun (name, path) =>
    let mark := match files.find (pathOf path) with
      | .ok .directory => if o.has 'F' || o.has 'p' then "/" else ""
      | .ok (.file _ true) => if o.has 'F' then "*" else ""
      | _ => ""
    let name := if o.has 'Q' then "\"" ++ name ++ "\"" else name
    (name ++ mark, path)
  if o.has 'l' || o.has 'n' then longRows files marked
  else
    match o.last? ['1', 'm', 'C', 'x'] with
    | some 'm' => if marked.isEmpty then [] else [Text.joinWith ", " (marked.map (·.1))]
    | some 'C' | some 'x' => if marked.isEmpty then [] else [Text.joinWith "  " (marked.map (·.1))]
    | _ => marked.map (·.1)

def insideRows (o : Options) (files : FileTree) (path : String) : List (String × String) :=
  let names := namesIn files path
  let names := if o.has 'a' then "." :: ".." :: names
    else if o.has 'A' then names else names.filter (!·.startsWith ".")
  names.map fun n => (n, below path n)

def total (files : FileTree) (rows : List (String × String)) : Nat :=
  rows.foldl (fun n (_, path) => match files.find (pathOf path) with
    | .ok node => n + blocks node
    | .error _ => n) 0

/-- Directories with their contents, each under its name; those inside follow if asked for. -/
def sections (o : Options) (files : FileTree) : Nat → String → List (String × List String)
  | 0, _ => []
  | fuel + 1, path =>
    let rows := insideRows o files path
    let lines := (if o.has 'l' || o.has 'n' then ["total " ++ toString (total files rows)] else []) ++
      listed o files rows
    let inner := if o.has 'R' then
        (rows.filter fun (n, p) => n ≠ "." && n ≠ ".." && files.isDirectory (pathOf p)).map (·.2)
      else []
    (path, lines) :: inner.flatMap (sections o files fuel)

def ls : Utility :=
  withOptions "ls" ⟨"aAbcCdfFghiklLmnNopqQrRsStuUvxX1".toList, "wIT".toList, [("all", 'a'),
      ("almost-all", 'A'), ("directory", 'd'), ("recursive", 'R'), ("reverse", 'r'),
      ("classify", 'F'), ("quote-name", 'Q')]⟩ 2 fun o => do
    let files ← filesHere
    let operands := Text.ascending (if o.operands.isEmpty then ["."] else o.operands)
    let mut there : List String := []
    let mut status := 0
    for path in o.operands do
      match files.find (pathOf path) with
      | .ok _ => pure ()
      | .error e =>
        complain ("ls: cannot access " ++ quoted path ++ ": " ++ plainReason e)
        status := 2
    there := operands.filter fun p => files.contains (pathOf p)
    let isListed (p : String) : Bool := files.isDirectory (pathOf p) && !o.has 'd'
    let plain := listed o files ((there.filter (!isListed ·)).map fun p => (p, p))
    let directories := (there.filter isListed).flatMap (sections o files (files.nodes.length + 1))
    let titled := o.operands.length > 1 || o.has 'R'
    let shown := directories.map fun (name, lines) =>
      (if titled then name ++ ":\n" else "") ++ unlines lines
    say (Text.joinWith "\n" ((if plain.isEmpty then [] else [unlines plain]) ++ shown))
    return status

def statText (path : String) (node : FileNode) : List Char → String
  | [] => ""
  | '%' :: c :: cs =>
    let value := match c with
      | 'n' => path
      | 's' => toString (nodeSize node)
      | 'a' => match node with
        | .directory | .file _ true => "755"
        | .file _ false => "644"
      | 'A' => modeText node
      | 'F' => match node with
        | .directory => "directory"
        | .file content _ => if content.size = 0 then "regular empty file" else "regular file"
      | 'u' | 'g' => "0"
      | 'U' | 'G' => "root"
      | '%' => "%"
      | _ => "?"
    value ++ statText path node cs
  | c :: cs => c.toString ++ statText path node cs

def stat : Utility :=
  withOptions "stat" ⟨"Lft".toList, "c".toList, [("format", 'c'), ("printf", 'p')]⟩ 1 fun o => do
    if o.operands.isEmpty then misused "stat" "missing operand" 1
    else
      let files ← filesHere
      o.operands.foldlM (fun status path => do
        match files.find (pathOf path) with
        | .ok node =>
          say (statText path node ((o.value? 'c').getD "  File: %n").toList ++ "\n")
          return status
        | .error e =>
          complain ("stat: cannot statx " ++ quoted path ++ ": " ++ plainReason e)
          return 1) 0

end Scriptwright.Shell.Utility
