import Scriptwright.Shell.Stream

/-!
Programs as a shell starts them: what they share in reading their arguments and their input.
-/
namespace Scriptwright.Shell

/-- A program with its arguments; it gives its status. -/
abbrev Utility := List String → Run Nat

namespace Utility

/-- The options of a program: letters, perhaps with values, in the order of the arguments. -/
structure Options where
  given : List (Char × String) := []
  operands : List String := []

namespace Options

def has (o : Options) (letter : Char) : Bool := o.given.any (·.1 = letter)

def value? (o : Options) (letter : Char) : Option String :=
  (o.given.filter (·.1 = letter)).getLast?.map (·.2)

def values (o : Options) (letter : Char) : List String :=
  (o.given.filter (·.1 = letter)).map (·.2)

def last? (o : Options) (letters : List Char) : Option Char :=
  (o.given.filter (letters.contains ·.1)).getLast?.map (·.1)

end Options

/-- What a program takes: letters without and with values, and long names for letters. -/
structure Accepted where
  flags : List Char := []
  valued : List Char := []
  long : List (String × Char) := []

inductive OptionFault where
  | unknown (text : String)
  | missing (letter : Char)

def OptionFault.message : OptionFault → String
  | .unknown text =>
    if text.startsWith "--" then "unrecognized option '" ++ text ++ "'"
    else "invalid option -- '" ++ text ++ "'"
  | .missing letter => "option requires an argument -- '" ++ letter.toString ++ "'"

/-- The letters of one argument: flags, and perhaps an option that takes the rest as its value. -/
def lettersOf (a : Accepted) : List Char → List String →
    Except OptionFault (List (Char × String) × List String)
  | [], rest => .ok ([], rest)
  | c :: cs, rest =>
    if a.valued.contains c then
      match cs, rest with
      | [], value :: rest => .ok ([(c, value)], rest)
      | [], [] => .error (.missing c)
      | cs, rest => .ok ([(c, String.ofList cs)], rest)
    else if a.flags.contains c then do
      let (more, rest) ← lettersOf a cs rest
      return ((c, "") :: more, rest)
    else .error (.unknown c.toString)

/-- Options and operands; two dashes end the options. -/
def optionsOf (a : Accepted) : Nat → List String → Except OptionFault Options
  | 0, _ => .ok {}
  | _ + 1, [] => .ok {}
  | fuel + 1, word :: rest =>
    match word.toList with
    | ['-', '-'] => .ok { operands := rest }
    | '-' :: '-' :: cs =>
      let (name, value) := cs.span (· != '=')
      match a.long.lookup (String.ofList name) with
      | none => .error (.unknown word)
      | some letter =>
        if a.valued.contains letter then
          match value, rest with
          | _ :: value, rest => do
            let o ← optionsOf a fuel rest
            return { o with given := (letter, String.ofList value) :: o.given }
          | [], value :: rest => do
            let o ← optionsOf a fuel rest
            return { o with given := (letter, value) :: o.given }
          | [], [] => .error (.missing letter)
        else do
          let o ← optionsOf a fuel rest
          return { o with given := (letter, "") :: o.given }
    | '-' :: c :: cs => do
      let (found, rest) ← lettersOf a (c :: cs) rest
      let o ← optionsOf a fuel rest
      return { o with given := found ++ o.given }
    | _ => do
      let o ← optionsOf a fuel rest
      return { o with operands := word :: o.operands }

def misused (name text : String) (status : Nat) : Run Nat := do
  complain (name ++ ": " ++ text)
  complain ("Try '" ++ name ++ " --help' for more information.")
  return status

/-- Runs a program on its options; `status` is what it gives when it does not know one. -/
def withOptions (name : String) (a : Accepted) (status : Nat) (body : Options → Run Nat) : Utility :=
  fun arguments => do
    match optionsOf a (arguments.length + 1) arguments with
    | .ok o => body o
    | .error f => misused name f.message status

def chunks {α : Type} (size : Nat) : Nat → List α → List (List α)
  | 0, _ => []
  | fuel + 1, items =>
    if items.isEmpty then [] else items.take size :: chunks size fuel (items.drop size)

structure Input where
  name : String
  text : String

/-- All inputs of a program, the status after those that cannot be read, and whether one of them
never ends. -/
structure Inputs where
  found : List Input
  status : Nat := 0
  endless : Bool := false

def contentOf (path : String) : Run (Except StorageError (String × Bool)) := do
  if path = "-" then return .ok (← takeAll 0)
  else
    match ← device? path with
    | some number =>
      let p ← process
      setStream 1000 number
      let found ← takeAll 1000
      change fun q => { q with streams := p.streams }
      return .ok found
    | none =>
      let files ← filesHere
      match files.find (pathOf path) with
      | .ok (.file content _) => return .ok (ofBytes content, false)
      | .ok .directory => return .error .isADirectory
      | .error e => return .error e

/-- Reads the named files, or the input if there are none. What cannot be read is complained about,
unless the complaint is empty. -/
def inputs (paths : List String) (status : Nat) (complaint : String → StorageError → String) :
    Run Inputs := do
  let paths := if paths.isEmpty then ["-"] else paths
  paths.foldlM (fun done path => do
    match ← contentOf path with
    | .ok (text, endless) =>
      return { done with found := done.found ++ [⟨path, text⟩], endless := done.endless || endless }
    | .error e =>
      let text := complaint path e
      if text ≠ "" then complain text
      return { done with status }) { found := [] }

def specialSigns : List Char := " !\"$&()*;<=>?[^\x60|'\\".toList

def isSpecialAt (c : Char) (i : Nat) : Bool :=
  specialSigns.contains c || c < ' ' || '~' < c || (i = 0 && (c = '#' || c = '~'))

/-- Characters that mean the same between single and between double quotes. -/
def isHarmless (c : Char) : Bool := c.isAlphanum || "%+,-./:]_ '".toList.contains c

/-- A name between quotes, with escapes for what cannot be printed. -/
def quoted (name : String) : String :=
  let cs := name.toList
  if cs.contains '\'' && cs.all isHarmless then "\"" ++ name ++ "\""
  else "'" ++ String.ofList (inside false cs) ++ "'"
where
  inside (escaping : Bool) : List Char → List Char
    | [] => []
    | c :: cs =>
      if c = '\'' then "'\\''".toList ++ inside false cs
      else if ' ' ≤ c && c ≤ '~' then
        (if escaping then ['\'', '\''] else []) ++ c :: inside false cs
      else (if escaping then [] else "'$'".toList) ++ escape c ++ inside true cs
  escape (c : Char) : List Char :=
    match [('\x07', 'a'), ('\x08', 'b'), ('\x0c', 'f'), ('\n', 'n'), ('\r', 'r'), ('\t', 't'),
        ('\x0b', 'v')].lookup c with
    | some e => ['\\', e]
    | none =>
      let digit (n : Nat) : Char := Char.ofNat ('0'.toNat + n % 8)
      ['\\', digit (c.toNat / 64), digit (c.toNat / 8), digit c.toNat]

def quotedIfSpecial (name : String) : String :=
  let isSpecial := name = "" || (name.toList.zipIdx).any fun (c, i) => isSpecialAt c i
  if isSpecial then quoted name else name

def ordinary (name : String) (path : String) (e : StorageError) : String :=
  name ++ ": " ++ quotedIfSpecial path ++ ": " ++ plainReason e

/-- Gives a status, unless the input went on and on. -/
def ended (i : Inputs) (status : Nat) : Run Nat :=
  if i.endless then throw .stuck else return status

def filter (name : String) (paths : List String) (make : String → String) : Run Nat := do
  let i ← inputs paths 1 (ordinary name)
  say (make (String.join (i.found.map (·.text))))
  ended i i.status

end Utility

end Scriptwright.Shell
