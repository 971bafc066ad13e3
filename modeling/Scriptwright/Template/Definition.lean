import Scriptwright.Document.Json
import Scriptwright.Document.Yaml.Reader
import Scriptwright.Storage.FileTree
import Scriptwright.Template.Catalog
import Scriptwright.Text.Case

/-!
Template definitions in files. A directory of definitions adds each one that can be read to a
catalog; what cannot be read is passed over.
-/
namespace Scriptwright

inductive DefinitionFormat where
  | json
  | yaml
deriving DecidableEq, Repr

namespace DefinitionFormat

/-- The format of a file by its extension, in any case of ASCII letters. -/
def ofPath? (path : String) : Option DefinitionFormat :=
  match (Path.extension? path).map Text.asciiLowercase with
  | some "json" => some .json
  | some "yaml" | some "yml" => some .yaml
  | _ => none

def read? (format : DefinitionFormat) (shape : Shape) (text : String) : Option Value :=
  match format with
  | .json => Document.json? shape text
  | .yaml => Document.yaml? shape text

end DefinitionFormat

namespace Template

def ofFile (files : FileTree) (path : String) : Except GenerationError Template :=
  match files.readText path with
  | .error e => .error (.templateLoad path e.message)
  | .ok text =>
    match DefinitionFormat.ofPath? path with
    | none => .error (.templateLoad path "unsupported template format")
    | some format =>
      match format.read? shape text >>= ofValue? with
      | some t => .ok t
      | none => .error (.templateLoad path "malformed definition")

end Template

namespace Catalog

/-- Templates of the definitions directly inside a directory, in the order of file names. -/
def definitions (files : FileTree) (directory : String) : List Template :=
  let names := (files.fileNames directory).filter fun n => (DefinitionFormat.ofPath? n).isSome
  names.filterMap fun name => (Template.ofFile files (Path.join directory name)).toOption

/-- The catalog with the definitions of a directory added, and how many these were. -/
def loadDirectory (c : Catalog) (files : FileTree) (directory : String) : Catalog × Nat :=
  if files.isDirectory directory then
    let ts := definitions files directory
    (c.insertAll ts, ts.length)
  else (c, 0)

end Catalog

end Scriptwright
