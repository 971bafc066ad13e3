import Scriptwright.Document.Shape
import Scriptwright.Value.Codec

/-!
The two languages scripts are written in, and what a caller may ask for.
-/
namespace Scriptwright

inductive Language where
  | python
  | bash
deriving DecidableEq, Repr

namespace Language

def all : List Language := [.python, .bash]

def tag : Language → String
  | .python => "python"
  | .bash => "bash"

def ofTag? : String → Option Language
  | "python" => some .python
  | "bash" => some .bash
  | _ => none

theorem ofTag?_tag (l : Language) : ofTag? l.tag = some l := by cases l <;> rfl

def displayName : Language → String
  | .python => "Python"
  | .bash => "Bash"

def extension : Language → String
  | .python => "py"
  | .bash => "sh"

def toValue (l : Language) : Value := .string l.tag

def ofValue? (v : Value) : Option Language := v.asTag? >>= ofTag?

end Language

inductive LanguagePreference where
  | only (language : Language)
  | auto
deriving DecidableEq, Repr

namespace LanguagePreference

def tag : LanguagePreference → String
  | .only l => l.tag
  | .auto => "auto"

def ofTag? : String → Option LanguagePreference
  | "auto" => some .auto
  | s => (Language.ofTag? s).map .only

theorem ofTag?_tag (p : LanguagePreference) : ofTag? p.tag = some p := by
  rcases p with (_ | _) | _ <;> rfl

def explicit? : LanguagePreference → Option Language
  | .only l => some l
  | .auto => none

def toValue (p : LanguagePreference) : Value := .string p.tag

def ofValue? (v : Value) : Option LanguagePreference := v.asTag? >>= ofTag?

end LanguagePreference

end Scriptwright
