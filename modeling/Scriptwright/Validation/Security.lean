import Scriptwright.Language
import Scriptwright.Pattern.Search
import Scriptwright.Text.Search

/-!
Risky constructs in scripts. Findings are advice: every rule that matches gives its warning, and
each warning is given once.
-/
namespace Scriptwright.Security

structure Rule where
  message : String
  pattern : Pattern
  /-- The only language the rule is for. -/
  language : Option Language := none
  /-- A comment that acknowledges the construct. -/
  exemption : Option String := none
deriving DecidableEq, Repr

open Pattern

def blanks : Pattern := .run (.of [.blank])

def someBlanks : Pattern := someOf (.of [.blank])

def call (name : String) : Pattern := chain [.wordEdge, text name, blanks, text "("]

/-- One of the names set to a quoted text that is not empty. -/
def quotedSetting (names : List String) : Pattern :=
  chain [oneOf (names.map foldedText), blanks, text "=", blanks, .char (.chars "\"'"),
    someOf (.notChars "\"'"), .char (.chars "\"'")]

def shellFlag : Pattern := chain [text "shell", blanks, text "=", blanks, text "True"]

def evalCommand : Pattern :=
  chain [
    oneOf [.lineStart, .seq (.char (.chars ";&|")) blanks, .char (.of [.blank])],
    text "eval", someBlanks]

def commandSubstitution : Pattern :=
  .either (.seq (text "$(") (.char (.notChars "(")))
    (chain [text "\x60", someOf (.notChars "\x60\n"), text "\x60"])

def barePositional : Pattern :=
  chain [
    oneOf [.lineStart, .char (.of [.blank, .one '=', .one '('])],
    text "$", .char (.of [.between '1' '9', .one '@', .one '*']),
    oneOf [.char (.of [.blank, .one ';', .one ')', .one '|', .one '&']), .lineEnd]]

def systemFile : Pattern :=
  .either
    (chain [text "/etc/", oneOf [text "passwd", text "shadow", text "sudoers"], .wordEdge])
    (text ".ssh/id_")

def rules : List Rule := [
  ⟨"Security warning: Detected eval usage", call "eval", some .python, none⟩,
  ⟨"Security warning: Detected eval usage", evalCommand, some .bash, none⟩,
  ⟨"Security warning: Detected exec usage", call "exec", some .python, none⟩,
  ⟨"Security warning: Detected shell injection risk", shellFlag, none, none⟩,
  ⟨"Security warning: Detected subprocess with shell",
    chain [text "subprocess", .run (.notChars "\n"), shellFlag], none, none⟩,
  ⟨"Security warning: Detected rm -rf usage",
    chain [text "rm", someBlanks, text "-rf", someBlanks], none, none⟩,
  ⟨"Security warning: Detected sudo usage", chain [.wordEdge, text "sudo", someBlanks], none, none⟩,
  ⟨"Security warning: Detected password in plaintext", quotedSetting ["password"], none, none⟩,
  ⟨"Security warning: Detected hardcoded credentials",
    quotedSetting ["api_key", "secret", "token"], none, none⟩,
  ⟨"Security warning: Pickle deserialization can be dangerous",
    chain [.wordEdge, text "pickle.load", optional (text "s"), .wordEdge], some .python, none⟩,
  ⟨"Security warning: Raw input() usage - consider validation", call "input", some .python,
    some "# safe input"⟩,
  ⟨"Security warning: Dynamic imports can load untrusted code",
    .either (call "__import__") (call "importlib.import_module"), some .python, none⟩,
  ⟨"Security warning: Command substitution - ensure input validation", commandSubstitution,
    some .bash, some "# safe command substitution"⟩,
  ⟨"Security warning: Unquoted positional parameter - quote expansions like \"$1\"",
    barePositional, some .bash, none⟩,
  ⟨"Security warning: Accessing sensitive system files", systemFile, none, none⟩]

def Rule.appliesTo (r : Rule) (language : Language) : Bool := r.language.all (· = language)

def Rule.isExempt (r : Rule) (code : List Char) : Bool := r.exemption.any (Text.mentions code)

def Rule.fires (r : Rule) (language : Language) (code : List Char) : Bool :=
  r.appliesTo language && !r.isExempt code && r.pattern.occurs code

def addWarning (warnings : List String) (w : String) : List String :=
  if warnings.contains w then warnings else warnings ++ [w]

/-- The warnings for a script, in the order of the rules. -/
def scan (code : String) (language : Language) : List String :=
  let fired := rules.filter fun r => r.fires language code.toList
  (fired.map (·.message)).foldl addWarning []

end Scriptwright.Security
