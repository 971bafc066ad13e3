import Scriptwright.CommandLine.Run
import Scriptwright.Shell.System

/-!
The program. It looks at the places on disk that a command line is about, runs the command on what
it saw, and makes the disk look like the outcome.
-/
namespace Scriptwright.Program

def pathText (loc : Location) : String := "/" ++ loc

def goStep (loc : Location) (piece : String) : Location :=
  if piece = "" ∨ piece = "." then loc
  else if piece = ".." then Location.outer loc
  else Location.inside loc piece

def placeOf (here : Location) (path : String) : Location :=
  (Path.pieces path).foldl goStep (if Path.isAbsolute path then Location.root else here)

def isDirectory (loc : Location) : IO Bool := do
  ((← IO.currentDir) / pathText loc).isDir

def isPresent (loc : Location) : IO Bool := do
  ((← IO.currentDir) / pathText loc).pathExists

def entryNames (loc : Location) : IO (List String) := do
  let entries ← ((← IO.currentDir) / pathText loc).readDir
  return entries.toList.map (·.fileName)

def content (loc : Location) : IO ByteArray :=
  try IO.FS.readBinFile (pathText loc)
  catch _ => pure ByteArray.empty

def see (t : FileTree) (loc : Location) : IO FileTree := do
  if ← isDirectory loc then return t.set loc .directory
  else if ← isPresent loc then return t.set loc (.file (← content loc) false)
  else return t

def seePath (t : FileTree) (path : String) : IO FileTree :=
  let pieces := Path.pieces (placeOf t.here path)
  (List.range (pieces.length + 1)).foldlM
    (fun t n => see t (Text.joinWith "/" (pieces.take n))) t

def seeDirectory (t : FileTree) (path : String) : IO FileTree := do
  let t ← seePath t path
  let loc := placeOf t.here path
  if ← isDirectory loc then
    (← entryNames loc).foldlM (fun t name => see t (Location.inside loc name)) t
  else return t

def scratchRoot : String := (Shell.host ⟨[], Location.root⟩).scratchRoot

def namedPaths (i : CommandLine.Invocation) (log : Logging) : List String :=
  let batch := match i.command with
    | .batch file _ => [file]
    | _ => []
  "." :: scratchRoot :: log.directory :: i.configFile.toList ++ batch

/-- Directories that matter once the configuration is known. -/
def directories (i : CommandLine.Invocation) (config : Config) : List String :=
  config.templateDirectory.toList ++ config.tempRoot.toList ++
    ((i.command.scriptPath? config).bind Path.parent?).toList

def snapshot (i : CommandLine.Invocation) (environment : Environment) : IO FileTree := do
  let here := placeOf Location.root (toString (← IO.currentDir))
  let log := Logging.ofEnvironment environment
  let t ← (namedPaths i log).foldlM seePath (⟨[], here⟩ : FileTree)
  match Config.load t i.configFile i.options with
  | .ok config => (directories i config).foldlM seeDirectory t
  | .error _ => return t

def variableNames : List String :=
  ["SCRYPGEN_ENV", "ENVIRONMENT", "LOG_FORMAT", "LOG_OUTPUT", "LOG_DIR"] ++
    CommandLine.OptionSpec.shared.filterMap (·.environment)

def environment : IO Environment := do
  let found ← variableNames.mapM fun name => do
    return (← IO.getEnv name).map (name, ·)
  return found.filterMap id

def now : IO Moment := do
  let (_, path) ← IO.FS.createTempFile
  let modified := (← path.metadata).modified
  IO.FS.removeFile path
  return ⟨modified.sec, modified.nsec.toNat⟩

def store (before : FileTree) (loc : Location) (node : FileNode) : IO Unit := do
  match node, before.get? loc with
  | .directory, some .directory => return
  | .directory, _ => IO.FS.createDirAll (pathText loc)
  | .file new mode, old =>
    let unchanged := match old with
      | some (.file bytes oldMode) => bytes == new && oldMode == mode
      | _ => false
    if unchanged then return
    IO.FS.writeBinFile (pathText loc) new
    if mode then
      let all : IO.AccessRight := { read := true, write := true, execution := true }
      let others : IO.AccessRight := { read := true, execution := true }
      IO.setAccessRights (pathText loc) ⟨all, others, others⟩

/-- Makes the disk look like `after` where that differs from `before`. -/
def storeAll (before after : FileTree) : IO Unit := do
  let made := after.nodes.filter (·.2.isDirectory)
  let files := after.nodes.filter fun (_, node) => !node.isDirectory
  for (loc, node) in made ++ files do
    store before loc node

end Scriptwright.Program

open Scriptwright in
def main (words : List String) : IO UInt32 := do
  let environment ← Program.environment
  let files ← match CommandLine.Invocation.ofWords words environment with
    | .ok i => Program.snapshot i environment
    | .error _ => pure ⟨[], Location.root⟩
  let outcome := CommandLine.run words environment (← Program.now) (Shell.host files)
  Program.storeAll files outcome.files
  IO.print outcome.output
  IO.eprint outcome.errors
  return outcome.exit.toUInt32
