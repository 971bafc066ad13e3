import Scriptwright.Decimal.Layout
import Scriptwright.Text.Quoted
import Scriptwright.Text.Search
import Scriptwright.Value.Basic

/-!
Values as JSON text, on one line or indented by two spaces a level.
-/
namespace Scriptwright

def Number.text : Number → String
  | .int n => toString n
  | .float x => Decimal.document x

def hexFour (n : Nat) : List Char :=
  let digits := Text.hexDigits n
  List.replicate (4 - digits.length) '0' ++ digits

def escapedChar (c : Char) : List Char :=
  if c = '"' then ['\\', '"']
  else if c = '\\' then ['\\', '\\']
  else if c = '\x08' then ['\\', 'b']
  else if c = '\x0c' then ['\\', 'f']
  else if c = '\n' then ['\\', 'n']
  else if c = '\r' then ['\\', 'r']
  else if c = '\t' then ['\\', 't']
  else if c.toNat < 0x20 then '\\' :: 'u' :: hexFour c.toNat
  else [c]

def jsonString (text : String) : String :=
  String.ofList ('"' :: text.toList.flatMap escapedChar ++ ['"'])

namespace Value

mutual

def compact : Value → String
  | .null => "null"
  | .bool true => "true"
  | .bool false => "false"
  | .number n => n.text
  | .string s => jsonString s
  | .array items => "[" ++ Text.joinWith "," (compactItems items) ++ "]"
  | .object entries => "\x7b" ++ Text.joinWith "," (compactEntries entries) ++ "\x7d"

def compactItems : List Value → List String
  | [] => []
  | v :: vs => v.compact :: compactItems vs

def compactEntries : List (String × Value) → List String
  | [] => []
  | (k, v) :: rest => (jsonString k ++ ":" ++ v.compact) :: compactEntries rest

end

def indentation (level : Nat) : String := String.ofList (List.replicate (2 * level) ' ')

/-- Parts on lines of their own between two brackets, or the bare brackets when there are none. -/
def bracketed (opening closing : String) (level : Nat) (parts : List String) : String :=
  match parts with
  | [] => opening ++ closing
  | _ =>
    let lines := parts.map (indentation (level + 1) ++ ·)
    opening ++ "\n" ++ Text.joinWith ",\n" lines ++ "\n" ++ indentation level ++ closing

mutual

def prettyAt (level : Nat) : Value → String
  | .array items => bracketed "[" "]" level (prettyItems (level + 1) items)
  | .object entries => bracketed "\x7b" "\x7d" level (prettyEntries (level + 1) entries)
  | v => v.compact

def prettyItems (level : Nat) : List Value → List String
  | [] => []
  | v :: vs => v.prettyAt level :: prettyItems level vs

def prettyEntries (level : Nat) : List (String × Value) → List String
  | [] => []
  | (k, v) :: rest => (jsonString k ++ ": " ++ v.prettyAt level) :: prettyEntries level rest

end

def pretty (v : Value) : String := v.prettyAt 0

end Value

end Scriptwright
