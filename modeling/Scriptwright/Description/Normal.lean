import Scriptwright.Text.Case
import Scriptwright.Text.Words

/-!
The normal form of a description: lower case, words apart by single spaces, and no characters but
letters, digits, `_` and a little punctuation that file names and addresses are made of.
-/
namespace Scriptwright.Description

def keptPunctuation : List Char := ['.', '-', '/', '~', ':', '*']

def isKept (c : Char) : Bool :=
  Text.isAlphanumeric c || c == '_' || Text.isBlank c || keptPunctuation.contains c

def keepOrSpace (c : Char) : Char := if isKept c then c else ' '

def normalizeChars (cs : List Char) : List Char :=
  Text.unwords (Text.words ((Text.lowercase (Text.trim cs)).map keepOrSpace))

def normalize (text : String) : String := String.ofList (normalizeChars text.toList)

end Scriptwright.Description
