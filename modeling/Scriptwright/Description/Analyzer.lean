import Scriptwright.Analysis
import Scriptwright.Description.Classification
import Scriptwright.Description.Extraction
import Scriptwright.Description.Normal
import Scriptwright.Vocabulary

/-!
From a description to its analysis: intent, entities, complexity, confidence, the language it
suggests, and what the script will require.
-/
namespace Scriptwright.Description

def maxBytes : Nat := 64 * 1024

structure LanguageScores where
  python : Nat
  bash : Nat
deriving DecidableEq, Repr

/-- A tie goes to Python. -/
def LanguageScores.winner (s : LanguageScores) : Language :=
  if s.bash ≤ s.python then .python else .bash

def intent (text : List Char) : Intent :=
  let actions := actions text
  let objects := objects text
  ⟨classify ⟨text, actions, objects⟩, secondaryIntents text, actions, objects⟩

def triggerCount (text : List Char) (triggers : List String) : Float :=
  (triggers.countP (Text.mentions text)).toUInt64.toFloat

/-- Triggers, actions, objects, entities and secondary intents, weighted and summed in this
order. -/
def complexityScore (vocabulary : Vocabulary) (text : List Char) (intent : Intent)
    (entities : List Entity) : Float :=
  let count := fun (n : Nat) => n.toUInt64.toFloat
  let score := -triggerCount text vocabulary.simpleTriggers
    + triggerCount text vocabulary.mediumTriggers
    + 2.0 * triggerCount text vocabulary.complexTriggers
  let score := score + count intent.actions.length * 0.5
  let score := score + count intent.objects.length * 0.3
  let score := score + count entities.length * 0.1
  let score := if intent.primary.isIntegration then score + 1.0 else score
  score + count intent.secondary.length * 0.5

def complexityOf (score : Float) : Complexity :=
  if score ≤ 0.0 then .simple else if score ≤ 3.0 then .medium else .complex

/-- Points that the primary intent gives to Python and to Bash. -/
def intentBonus (intent : Intent) : Nat × Nat :=
  match intent.primary with
  | .nemoIntegration | .kdeConnect | .systemAdministration => (0, 3)
  | .guiApplication | .webAutomation | .dataProcessing => (3, 0)
  | .fileProcessing =>
    if intent.actions.contains "parse" || intent.actions.contains "analyze" then (1, 0) else (0, 1)
  | .generalScripting => (0, 0)

def anyMention (text : List Char) (phrases : List String) : Bool := phrases.any (Text.mentions text)

def languageScores (vocabulary : Vocabulary) (text : List Char) (intent : Intent) :
    LanguageScores :=
  let bonus := intentBonus intent
  let pythonHint := if anyMention text [".py", "python"] then 2 else 0
  let bashHint := if anyMention text [".sh", "bash", "shell"] then 2 else 0
  ⟨vocabulary.score .python text + bonus.1 + pythonHint,
    vocabulary.score .bash text + bonus.2 + bashHint⟩

def networkAccessActions : List String :=
  ["download", "upload", "request", "fetch", "scrape", "ping"]

def fileSystemActions : List String :=
  ["read", "write", "create", "delete", "copy", "move", "find"]

def databaseActions : List String := ["query", "insert", "update", "delete"]

def requirements (vocabulary : Vocabulary) (text : List Char) (intent : Intent)
    (entities : List Entity) : Requirements :=
  let hasAction := fun (candidates : List String) => candidates.any intent.actions.contains
  let labelled := fun (label : EntityLabel) => entities.filter (·.label = label)
  let textsOf := fun (label : EntityLabel) => (labelled label).map (·.text)
  let hasLabel := fun (label : EntityLabel) => !(labelled label).isEmpty
  let files := textsOf .file
  let networkAccess := hasAction networkAccessActions || hasLabel .url
  { inputFiles := if anyMention text ["read", "input", "load", "process"] then files else []
    outputFiles := if anyMention text ["write", "output", "save"] then files else []
    libraries := vocabulary.librariesFor text
    systemCommands := textsOf .command
    networkAccess
    fileSystemAccess := hasAction fileSystemActions || hasLabel .file || hasLabel .path
    guiRequired := intent.primary = .guiApplication || hasAction ["show", "display"]
    webRequired := intent.primary = .webAutomation || networkAccess
    databaseRequired := hasAction databaseActions || anyMention text ["database", "sql"]
    errorHandling :=
      intent.secondary.contains .errorHandling || anyMention text ["error", "exception", "handle"] }

/-- The strength of the signals, averaged with the mean confidence of the entities. -/
def confidence (intent : Intent) (entities : List Entity) : Float :=
  let score := 0.5
  let score := if intent.actions.isEmpty then score else score + 0.2
  let score := if intent.objects.isEmpty then score else score + 0.1
  let score := if entities.isEmpty then score else score + 0.1
  let score := if intent.primary = .generalScripting then score else score + 0.1
  let mean :=
    if entities.isEmpty then 0.5
    else entities.foldl (fun sum e => sum + e.confidence) 0.0 / entities.length.toUInt64.toFloat
  let average := (score + mean) / 2.0
  if average < 0.0 then 0.0 else if 1.0 < average then 1.0 else average

def analyzeNormal (vocabulary : Vocabulary) (text : List Char) : Analysis :=
  let intent := intent text
  let entities := entities text
  { intent, entities
    complexity := complexityOf (complexityScore vocabulary text intent entities)
    confidence := confidence intent entities
    suggestedLanguage := (languageScores vocabulary text intent).winner
    requirements := requirements vocabulary text intent entities }

structure TooLong where
  bytes : Nat
deriving DecidableEq, Repr

def TooLong.message (e : TooLong) : String :=
  "description is " ++ toString e.bytes ++ " bytes, limit is " ++ toString maxBytes

def analyze (vocabulary : Vocabulary) (description : String) : Except TooLong Analysis :=
  if maxBytes < description.utf8ByteSize then .error ⟨description.utf8ByteSize⟩
  else .ok (analyzeNormal vocabulary (normalizeChars description.toList))

theorem analyze_eq_ok_iff {vocabulary : Vocabulary} {description : String} {a : Analysis} :
    analyze vocabulary description = .ok a ↔
      description.utf8ByteSize ≤ maxBytes ∧
        a = analyzeNormal vocabulary (normalizeChars description.toList) := by
  unfold analyze
  split
  · simp [Nat.not_le.mpr ‹_›]
  · simp [Nat.not_lt.mp ‹_›, eq_comm]

theorem entities_of_analyze {vocabulary : Vocabulary} {description : String} {a : Analysis}
    (h : analyze vocabulary description = .ok a) :
    a.entities = entities (normalizeChars description.toList) := by
  rw [(analyze_eq_ok_iff.mp h).2, analyzeNormal]

end Scriptwright.Description
