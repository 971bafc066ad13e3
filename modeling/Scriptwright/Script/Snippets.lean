import Scriptwright.Signature
import Scriptwright.Text.Search
import Scriptwright.Text.Words

/-!
What templates put into a script: arbitrary text, as a shell word, as a class name or as an indented
block, and pieces of code that several of them share.
-/
namespace Scriptwright.Script

/-- Inside single quotes only the quote itself needs care: the word is closed, an escaped quote
follows, and it is opened again. -/
def shellQuotedChar (c : Char) : List Char :=
  if c = '\'' then ['\'', '\\', '\'', '\''] else [c]

def shellQuoteChars (cs : List Char) : List Char := '\'' :: cs.flatMap shellQuotedChar ++ ['\'']

def shellQuote (text : String) : String := String.ofList (shellQuoteChars text.toList)

def classNameChars (cs : List Char) : List Char :=
  let words := (Text.splitAt (fun c => !c.isAlphanum) cs).filter fun w => !w.isEmpty
  match words.flatMap Text.capitalized with
  | [] => "Application".toList
  | c :: rest => if c.isDigit then "App".toList ++ c :: rest else c :: rest

/-- The ASCII words of the text, each capitalized, as one name that starts with a letter. -/
def className (text : String) : String := String.ofList (classNameChars text.toList)

def indentLine (width : Nat) (line : List Char) : List Char :=
  if Text.isBlankText line then [] else List.replicate width ' ' ++ line

def indentBlockChars (width : Nat) (cs : List Char) : List Char :=
  let lines := Text.lines (Text.dropEndWhile (· == '\n') cs)
  List.intercalate ['\n'] (lines.map (indentLine width))

/-- Every line that is not blank moved in by `width` spaces, final line feeds dropped. -/
def indentBlock (width : Nat) (text : String) : String :=
  String.ofList (indentBlockChars width text.toList)

/-- The import statement for a library, under its usual alias if it has one. -/
def pythonImport (library : String) : String :=
  match library with
  | "pandas" => "import pandas as pd"
  | "numpy" => "import numpy as np"
  | "matplotlib" => "import matplotlib.pyplot as plt"
  | "tkinter" => "import tkinter as tk\nfrom tkinter import ttk, filedialog, messagebox"
  | other => "import " ++ other

def pythonImports (libraries : List String) : String :=
  Text.joinWith "\n" (libraries.map pythonImport)

/-- A function that checks for the commands, or nothing when there are none. -/
def dependencyCheck (commands : List String) : String :=
  if commands.isEmpty then ""
  else
    Text.joinWith "\n" [
      "# Check dependencies",
      "check_dependencies() \x7b",
      "    local deps=(" ++ Text.joinWith " " (commands.map shellQuote) ++ ")",
      "    local dep",
      "    for dep in \"$\x7bdeps[@]\x7d\"; do",
      "        if ! command -v \"$dep\" &> /dev/null; then",
      "            echo \"Error: $dep is required but not installed.\" >&2",
      "            exit 1",
      "        fi",
      "    done",
      "    echo \"All dependencies satisfied\"",
      "\x7d"]

def palette : List (String × String) :=
  [("GREEN", "0;32"), ("CYAN", "0;36"), ("PURPLE", "0;35"), ("NAVY", "0;34"), ("YELLOW", "1;33"),
    ("RED", "0;31"), ("NC", "0")]

def terminalColors : String :=
  Text.joinWith "\n" ("# Terminal colors" ::
    palette.map fun (name, code) => name ++ "='\\033[" ++ code ++ "m'")

end Scriptwright.Script
