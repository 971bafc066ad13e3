import Scriptwright.Intent
import Scriptwright.Pattern.Search
import Scriptwright.Text.Search

/-!
The ordered rules that decide the primary intent of a text, and the marks of secondary intents.
-/
namespace Scriptwright.Description

structure Signals where
  text : List Char
  actions : List String
  objects : List String

namespace Signals

def mentions (s : Signals) (phrase : String) : Bool := Text.mentions s.text phrase

def matchesPattern (s : Signals) (pattern : Pattern) : Bool := pattern.occurs s.text

def anyAction (s : Signals) (candidates : List String) : Bool := candidates.any s.actions.contains

def hasObject (s : Signals) (object : String) : Bool := s.objects.contains object

end Signals

def nemoWord : Pattern := .wholeWord ["nemo"]

def phoneWord : Pattern :=
  .chain [.wordEdge, .text "phone", .optional (.text "s"), .wordEdge]

/-- A word that begins with one of three stems. -/
def upkeepWord : Pattern :=
  .chain [.wordEdge, .oneOf [.text "backup", .text "sync", .text "archive"], .run (.of [.word])]

def stem (word : String) (rest : CharClass) : Pattern := .seq (.text word) (.run (.of [rest]))

def toolkitWord : Pattern :=
  .chain [.wordEdge,
    .oneOf [.text "tkinter", stem "pyqt" .word, stem "pyside" .word, stem "gtk" .word,
      .text "wxpython", stem "qt" .digit, .text "kivy"],
    .wordEdge]

def dataWord : Pattern :=
  .chain [.wordEdge,
    .oneOf [.text "csv", .text "json", .text "xml", .text "data", .text "dataset",
      .text "dataframe", .seq (.text "record") (.optional (.text "s")), .text "statistics"],
    .wordEdge]

def networkActions : List String := ["scrape", "download", "upload", "request", "fetch", "ping"]

def fileActions : List String := ["read", "write", "process", "parse"]

def dataActions : List String := ["analyze", "transform", "filter", "sort"]

/-- Categories with their conditions; the first that holds decides. -/
def primaryRules : List (IntentCategory × (Signals → Bool)) := [
  (.nemoIntegration, fun s =>
    s.matchesPattern nemoWord || s.mentions "file manager" || s.mentions "context menu"),
  (.kdeConnect, fun s =>
    s.mentions "kde connect" || s.mentions "remote command" || s.matchesPattern phoneWord),
  (.webAutomation, fun s => s.anyAction networkActions || s.hasObject "api" || s.hasObject "http"),
  (.systemAdministration, fun s => s.matchesPattern upkeepWord),
  (.guiApplication, fun s => s.hasObject "gui" || s.matchesPattern toolkitWord),
  (.dataProcessing, fun s => s.anyAction dataActions && s.matchesPattern dataWord),
  (.fileProcessing, fun s => s.anyAction fileActions)]

/-- The categories of all rules that hold, in rule order. -/
def matchingCategories (s : Signals) : List IntentCategory :=
  (primaryRules.filter fun rule => rule.2 s).map Prod.fst

def classify (s : Signals) : IntentCategory :=
  match primaryRules.find? fun rule => rule.2 s with
  | some rule => rule.1
  | none => .generalScripting

def secondaryPhrases : SecondaryIntent → List String
  | .errorHandling => ["error handling", "exception"]
  | .logging => ["log", "debug"]
  | .testing => ["test", "validate"]

def secondaryIntents (text : List Char) : List SecondaryIntent :=
  SecondaryIntent.all.filter fun i => (secondaryPhrases i).any (Text.mentions text)

end Scriptwright.Description
