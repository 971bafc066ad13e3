import Scriptwright.Markup.Failure
import Scriptwright.Script.Snippets
import Scriptwright.Text.Case
import Scriptwright.Value.Codec

/-!
The functions and filters that templates can use: those of the engine and, of the library's own, the
filters that work on texts, lists and sizes one at a time. The library's functions `range`, `now`,
`throw`, `get_random` and `get_env` and its filters for dates, numbers, sorting and markup (`date`,
`title`, `truncate`, `sort`, `slugify`, `pluralize`, `addslashes` and the like) count as unknown.
-/
namespace Scriptwright

def Number.plainText : Number → String
  | .int n => toString n
  | .float x => Decimal.plain x

namespace Value

mutual

/-- A value as a template prints it: null is empty, an object is not shown. -/
def display : Value → String
  | .null => ""
  | .bool true => "true"
  | .bool false => "false"
  | .number n => n.plainText
  | .string s => s
  | .array items => "[" ++ Text.joinWith ", " (displayItems items) ++ "]"
  | .object _ => "[object]"

def displayItems : List Value → List String
  | [] => []
  | v :: vs => v.display :: displayItems vs

end

/-- Zero, null and everything empty count as false. -/
def isTruthy : Value → Bool
  | .null => false
  | .bool b => b
  | .number (.int n) => n ≠ 0
  | .number (.float x) => x != 0.0 && !x.isNaN
  | .string s => !s.isEmpty
  | .array items => !items.isEmpty
  | .object entries => !entries.isEmpty

end Value

namespace Markup

abbrev Arguments := Entries

/-- A list of strings; a missing or null argument is the empty list. -/
def stringList (arguments : Arguments) (name : String) : Except Misuse (List String) :=
  match arguments.get? name with
  | none | some .null => .ok []
  | some (.array items) =>
    items.mapM fun
      | .string s => .ok s
      | other => .error (.notAllStrings name other)
  | some other => .error (.notAList name other)

def function? : String → Option (Arguments → Except Misuse Value)
  | "signature" => some fun _ => .ok (.string Signature.current.banner)
  | "python_imports" => some fun arguments =>
    (stringList arguments "libraries").map fun ls => .string (Script.pythonImports ls)
  | "bash_dependencies" => some fun arguments =>
    (stringList arguments "commands").map fun cs => .string (Script.dependencyCheck cs)
  | "neon_colors" => some fun _ => .ok (.string Script.terminalColors)
  | _ => none

def stringInput (filter : String) (input : Value) : Except Misuse String :=
  match input with
  | .string s => .ok s
  | other => .error (.notAString filter other)

def indentWidth (arguments : Arguments) : Except Misuse Nat :=
  match arguments.get? "width" with
  | none => .ok 4
  | some v =>
    match v.asNat? with
    | some n => .ok n
    | none => .error .badWidth

theorem indentWidth_int {n : Int} (h : Number.isUnsigned n = true) :
    indentWidth [("width", .number (.int n))] = .ok n.toNat := by
  simp [indentWidth, Entries.get?_cons, Value.asNat?, h]

def indentBlock (input : Value) (arguments : Arguments) : Except Misuse Value := do
  let text ← stringInput "indent_block" input
  let width ← indentWidth arguments
  return .string (Script.indentBlock width text)

def unescapedSeparator : List Char → List Char
  | '\\' :: 'n' :: cs => '\n' :: unescapedSeparator cs
  | '\\' :: 't' :: cs => '\t' :: unescapedSeparator cs
  | c :: cs => c :: unescapedSeparator cs
  | [] => []

def joinItems (input : Value) (arguments : Arguments) : Except Misuse Value := do
  let items ← match input with
    | .array items => .ok items
    | other => .error (.wrongInput "join" other "Vec<Value>")
  let separator ← match arguments.get? "sep" with
    | none => .ok ""
    | some (.string s) => .ok (String.ofList (unescapedSeparator s.toList))
    | some other => .error (.wrongArgument "truncate" "sep" other "String")
  return .string (Text.joinWith separator (items.map (·.display)))

def sizeOf (input : Value) : Except Misuse Value :=
  match input with
  | .array items => .ok (.nat items.length)
  | .object entries => .ok (.nat entries.length)
  | .string s => .ok (.nat s.length)
  | _ => .error .noLength

def textFilter (name : String) (change : List Char → List Char) (input : Value) :
    Except Misuse Value :=
  match input with
  | .string s => .ok (.string (String.ofList (change s.toList)))
  | other => .error (.wrongInput name other "String")

def capitalized : List Char → List Char
  | [] => []
  | c :: cs => Text.upperOne c ++ Text.lowercase cs

def wordCount (input : Value) : Except Misuse Value :=
  match input with
  | .string s => .ok (.nat (Text.words s.toList).length)
  | other => .error (.wrongInput "wordcount" other "String")

def textArgument (filter name : String) (arguments : Arguments) : Except Misuse String :=
  match arguments.get? name with
  | some (.string s) => .ok s
  | some other => .error (.wrongArgument filter name other "String")
  | none => .error (.missingArgument filter name)

def replaceText (input : Value) (arguments : Arguments) : Except Misuse Value := do
  let s ← match input with
    | .string s => .ok s
    | other => .error (.wrongInput "replace" other "String")
  let old ← textArgument "replace" "from" arguments
  let new ← textArgument "replace" "to" arguments
  return .string (s.replace old new)

/-- One item of a list; the empty text where there is none. -/
def oneItem (filter : String) (choose : List Value → Option Value) (input : Value) :
    Except Misuse Value :=
  match input with
  | .array items => .ok ((choose items).getD (.string ""))
  | other => .error (.wrongInput filter other "Vec<Value>")

def nthItem (input : Value) (arguments : Arguments) : Except Misuse Value :=
  match arguments.get? "n" with
  | none => .error (.missingArgument "nth" "n")
  | some v =>
    match v.asNat? with
    | some n => oneItem "nth" (fun items => items[n]?) input
    | none => .error (.wrongArgument "nth" "n" v "usize")

def backwards (input : Value) : Except Misuse Value :=
  match input with
  | .array items => .ok (.array items.reverse)
  | .string s => .ok (.string (String.ofList s.toList.reverse))
  | other => .error (.notReversible other)

def filter? : String → Option (Value → Arguments → Except Misuse Value)
  | "indent_block" => some indentBlock
  | "identifier" => some fun input _ =>
    (stringInput "identifier" input).map fun s => .string (Script.className s)
  | "shell_quote" => some fun input _ =>
    (stringInput "shell_quote" input).map fun s => .string (Script.shellQuote s)
  | "py_string" => some fun input _ =>
    (stringInput "py_string" input).map fun s => .string (jsonString s)
  | "join" => some joinItems
  | "length" => some fun input _ => sizeOf input
  | "upper" => some fun input _ => textFilter "upper" Text.uppercase input
  | "lower" => some fun input _ => textFilter "lower" Text.lowercase input
  | "trim" => some fun input _ => textFilter "trim" Text.trim input
  | "trim_start" => some fun input _ => textFilter "trim_start" Text.trimStart input
  | "trim_end" => some fun input _ => textFilter "trim_end" Text.trimEnd input
  | "capitalize" => some fun input _ => textFilter "capitalize" capitalized input
  | "wordcount" => some fun input _ => wordCount input
  | "replace" => some replaceText
  | "first" => some fun input _ => oneItem "first" List.head? input
  | "last" => some fun input _ => oneItem "last" List.getLast? input
  | "nth" => some nthItem
  | "reverse" => some fun input _ => backwards input
  | "json_encode" => some fun input _ => .ok (.string input.compact)
  | "as_str" => some fun input _ => .ok (.string input.display)
  | _ => none

end Markup

end Scriptwright
