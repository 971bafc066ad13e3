import Scriptwright.Markup.Expr.Dump
import Scriptwright.Value.Printer

/-!
Why rendering a template fails.
-/
namespace Scriptwright.Markup

mutual

def dumpValue : Value → String
  | .null => "Null"
  | .bool b => "Bool(" ++ dumpTruth b ++ ")"
  | .number n => "Number(" ++ n.text ++ ")"
  | .string s => "String(" ++ Text.quoted s ++ ")"
  | .array items => "Array " ++ dumpList (dumpValues items)
  | .object entries => "Object \x7b" ++ Text.joinWith ", " (dumpEntries entries) ++ "\x7d"

def dumpValues : List Value → List String
  | [] => []
  | v :: vs => dumpValue v :: dumpValues vs

def dumpEntries : List (String × Value) → List String
  | [] => []
  | (k, v) :: rest => (Text.quoted k ++ ": " ++ dumpValue v) :: dumpEntries rest

end

inductive Misuse where
  | notAList (argument : String) (found : Value)
  | notAllStrings (argument : String) (found : Value)
  | notAString (filter : String) (found : Value)
  | badWidth
  | wrongInput (filter : String) (found : Value) (expected : String)
  | wrongArgument (filter argument : String) (found : Value) (expected : String)
  | missingArgument (filter argument : String)
  | noLength
  | notReversible (found : Value)
  | questionTakesNothing (question : String)
  | tooManyArguments (question : String) (given most : Nat)
  | undefinedSubject (question : String)
  | wrongSubject (question part kind : String)

def Misuse.message : Misuse → String
  | .notAList argument found =>
    "`" ++ argument ++ "` must be an array of strings, found " ++ found.compact
  | .notAllStrings argument found =>
    "`" ++ argument ++ "` must contain only strings, found " ++ found.compact
  | .notAString filter found => "`" ++ filter ++ "` expects a string, found " ++ found.compact
  | .badWidth => "`indent_block` width must be a non-negative integer"
  | .wrongInput filter found expected =>
    "Filter `" ++ filter ++ "` was called on an incorrect value: got `" ++ found.compact ++
      "` but expected a " ++ expected
  | .wrongArgument filter argument found expected =>
    "Filter `" ++ filter ++ "` received an incorrect type for arg `" ++ argument ++ "`: got `" ++
      found.compact ++ "` but expected a " ++ expected
  | .missingArgument filter argument =>
    "Filter `" ++ filter ++ "` expected an arg called `" ++ argument ++ "`"
  | .noLength =>
    "Filter `length` was used on a value that isn't an array, an object, or a string."
  | .notReversible found =>
    "Filter `reverse` received an incorrect type for arg `value`: got `" ++ found.compact ++
      "` but expected Array|String"
  | .questionTakesNothing question =>
    "Tester `" ++ question ++ "` was called with some args but this test doesn't take args"
  | .tooManyArguments question given most =>
    "Tester `" ++ question ++ "` was called with " ++ toString given ++
      " args, the max number is " ++ toString most
  | .undefinedSubject question =>
    "Tester `" ++ question ++ "` was called on an undefined variable"
  | .wrongSubject question part kind =>
    "Tester `" ++ question ++ "` was called " ++ part ++ " that isn't a " ++ kind

/-- Whole numbers of 64 bits, with or without a sign. -/
inductive WholeRange where
  | signed
  | unsigned

def WholeRange.word : WholeRange → String
  | .signed => "i64"
  | .unsigned => "u64"

inductive Failure where
  | unknownName (name template : String)
  /-- A path with brackets leads nowhere; `reached` is what the brackets came to. -/
  | unknownPlace (path template reached : String)
  | badIndex (index path : String)
  | inIndex (path : String) (cause : Failure)
  | unknownFilter (name : String)
  | unknownFunction (name : String)
  | unknownQuestion (name : String)
  | misuse (cause : Misuse)
  | inFilter (name : String) (cause : Option Failure)
  | inFunction (name : String) (cause : Option Failure)
  | inQuestion (name : String) (cause : Option Failure)
  | noDefault
  | notIterable (container : String)
  | keyWithoutObject (container : String)
  | objectWithoutKey (container : String)
  | anonymousContainer (container : Operand)
  | notANumber (name : String)
  | notANumberCall (function : String)
  | notANumberExpression
  | textInArithmetic (text : String)
  | joinedInArithmetic (parts : String)
  | truthInArithmetic (value : Bool)
  | questionInArithmetic (question : String)
  | overflow (left : Int) (symbol : String) (right : Int) (range : WholeRange)
  | zeroModulus (left right : Expr)
  | undefinedComparison
  | notATruth (function : String)
  | notJoinable (source name : String)
  | notInside (item : Value) (container : String)
  | noContainer
  | outsideLoop (word : String)

def Failure.headline : Failure → Failure
  | .inFilter name _ => .inFilter name none
  | .inFunction name _ => .inFunction name none
  | .inQuestion name _ => .inQuestion name none
  | e => e

mutual

def Failure.message : Failure → String
  | .unknownName name template =>
    "Variable `" ++ name ++ "` not found in context while rendering '" ++ template ++ "'"
  | .unknownPlace path template reached =>
    "Variable `" ++ path ++ "` not found in context while rendering '" ++ template ++
      "': the evaluated version was `" ++ reached ++ "`. Maybe the index is out of bounds?"
  | .badIndex index path =>
    "Only variables evaluating to String or Number can be used as index (`" ++ index ++ "` of `" ++
      path ++ "`)"
  | .inIndex path cause =>
    "Variable " ++ path ++ " can not be evaluated because: " ++ cause.message
  | .unknownFilter name => "Filter '" ++ name ++ "' not found"
  | .unknownFunction name => "Function '" ++ name ++ "' not found"
  | .unknownQuestion name => "Test '" ++ name ++ "' not found"
  | .misuse cause => cause.message
  | .inFilter name cause => "Filter call '" ++ name ++ "' failed" ++ causeMessage cause
  | .inFunction name cause => "Function call '" ++ name ++ "' failed" ++ causeMessage cause
  | .inQuestion name cause => "Test call '" ++ name ++ "' failed" ++ causeMessage cause
  | .noDefault => "The `default` filter requires a `value` argument."
  | .notIterable container =>
    "Tried to iterate on a container (`" ++ container ++ "`) that has a unsupported type"
  | .keyWithoutObject container =>
    "Tried to iterate using key value on variable `" ++ container ++
      "`, but it isn't an object/map"
  | .objectWithoutKey container =>
    "Tried to iterate using key value on variable `" ++ container ++ "`, but it is missing a key"
  | .anonymousContainer container =>
    "Forloop containers have to be an ident or a function call (tried to iterate on '" ++
      container.dump ++ "')"
  | .notANumber name =>
    "Variable `" ++ name ++ "` was used in a math operation but is not a number"
  | .notANumberCall function =>
    "Function `" ++ function ++ "` was used in a math operation but is not returning a number"
  | .notANumberExpression => "Tried to do math with an expression not resulting in a number"
  | .textInArithmetic text => "Tried to do math with a string: `" ++ text ++ "`"
  | .joinedInArithmetic parts => "Tried to do math with a string concatenation: " ++ parts
  | .truthInArithmetic value => "Tried to do math with a boolean: `" ++ dumpTruth value ++ "`"
  | .questionInArithmetic question => "Tried to do math with a test: " ++ question
  | .overflow left symbol right range =>
    toString left ++ " " ++ symbol ++ " " ++ toString right ++ " results in an out of bounds " ++
      range.word
  | .zeroModulus left right =>
    "Tried to do a modulo by zero: " ++ left.dump ++ "/" ++ right.dump
  | .undefinedComparison => "Comparison to NaN"
  | .notATruth function =>
    "Function `" ++ function ++ "` was used in a logic operation but is not returning a bool"
  | .notJoinable source name =>
    "Tried to concat a value that is not a string or a number from " ++ source ++ " " ++ name
  | .notInside item container =>
    "Tried to check if " ++ dumpValue item ++ " is in a " ++ container ++
      ", but it isn't a string"
  | .noContainer => "The `in` operator only supports strings, arrays and objects."
  | .outsideLoop word => "Attempted `" ++ word ++ "` while not in `for loop`"

def causeMessage : Option Failure → String
  | none => ""
  | some cause => ": " ++ cause.message

end

end Scriptwright.Markup
