import Scriptwright.Markup.Library
import Scriptwright.Proofs.Script.Snippets

/-!
Quoted words read back. A reader of shell words goes through a text one character at a time and
keeps in mind what the character before it means for the next one. Behind a quoted text it stands
where it stood before, with the text added to the word, so a list of quoted texts is read as that
list.
-/
namespace Scriptwright.Script

/-- What stands before the next character: nothing of the kind, a backslash, a single quote. -/
inductive Quoting where
  | plain
  | escaped
  | quoted

def isGap (c : Char) : Bool := c = ' ' || c = '\t' || c = '\n'

/-- Characters that a shell would not take for themselves outside quotes. -/
def isShellSign (c : Char) : Bool := "|&;<>($\x60\"*?[#~=%".toList.contains c

/-- Words up to the end or to a closing parenthesis, and what is left from there on; `word` is the
one that has begun. -/
def wordsBehind :
    Quoting → Option (List Char) → List Char → Option (List (List Char) × List Char)
  | .plain, word, [] => some (word.toList, [])
  | .escaped, _, [] | .quoted, _, [] => none
  | .plain, word, c :: cs =>
    if c = ')' then some (word.toList, c :: cs)
    else if isGap c then
      (wordsBehind .plain none cs).map fun (words, rest) => (word.toList ++ words, rest)
    else if c = '\\' then wordsBehind .escaped word cs
    else if c = '\'' then wordsBehind .quoted (word.getD []) cs
    else if isShellSign c then none
    else wordsBehind .plain (word.getD [] ++ [c]) cs
  | .escaped, word, c :: cs => wordsBehind .plain (word.getD [] ++ [c]) cs
  | .quoted, word, c :: cs =>
    if c = '\'' then wordsBehind .plain word cs
    else wordsBehind .quoted (word.getD [] ++ [c]) cs

def shellWords? (text : String) : Option (List String × String) :=
  (wordsBehind .plain none text.toList).map fun (words, rest) =>
    (words.map String.ofList, String.ofList rest)

theorem wordsBehind_quotedChars (word cs rest : List Char) :
    wordsBehind .quoted word (cs.flatMap shellQuotedChar ++ rest) =
      wordsBehind .quoted (word ++ cs : List Char) rest := by
  induction cs generalizing word with
  | nil => simp
  | cons c cs ih =>
    rw [List.flatMap_cons, List.append_assoc]
    by_cases hc : c = '\''
    · -- out of the quotes, the escaped quote, and in again
      subst hc
      simp [shellQuotedChar, wordsBehind, isGap, ih]
    · simp [shellQuotedChar, wordsBehind, hc, ih]

theorem wordsBehind_shellQuoteChars (cs rest : List Char) :
    wordsBehind .plain none (shellQuoteChars cs ++ rest) = wordsBehind .plain cs rest := by
  have hopen : wordsBehind .plain none ('\'' :: (cs.flatMap shellQuotedChar ++ '\'' :: rest)) =
      wordsBehind .quoted ([] : List Char) (cs.flatMap shellQuotedChar ++ '\'' :: rest) := by
    simp [wordsBehind, isGap]
  simp [shellQuoteChars, hopen, wordsBehind_quotedChars, wordsBehind]

theorem wordsBehind_end {rest : List Char} (h : rest = [] ∨ rest.head? = some ')')
    (word : Option (List Char)) : wordsBehind .plain word rest = some (word.toList, rest) := by
  cases rest with
  | nil => rfl
  | cons c cs =>
    obtain rfl : c = ')' := by simpa using h
    simp [wordsBehind]

theorem wordsBehind_space (word : Option (List Char)) (cs : List Char) :
    wordsBehind .plain word (' ' :: cs) =
      (wordsBehind .plain none cs).map fun (words, rest) => (word.toList ++ words, rest) := by
  simp [wordsBehind, isGap]

theorem wordsBehind_intercalate (texts : List (List Char)) {rest : List Char}
    (h : rest = [] ∨ rest.head? = some ')') :
    wordsBehind .plain none (List.intercalate [' '] (texts.map shellQuoteChars) ++ rest) =
      some (texts, rest) := by
  induction texts with
  | nil => exact wordsBehind_end h none
  | cons text texts ih =>
    cases texts with
    | nil => simp [wordsBehind_shellQuoteChars, wordsBehind_end h]
    | cons next texts =>
      rw [List.map_cons, List.map_cons, List.intercalate_cons_cons, ← List.map_cons,
        List.append_assoc, List.append_assoc, wordsBehind_shellQuoteChars, List.singleton_append,
        wordsBehind_space, ih]
      rfl

theorem shellWords?_shellQuote (text : String) :
    shellWords? (shellQuote text) = some ([text], "") := by
  have hread := wordsBehind_shellQuoteChars text.toList []
  rw [List.append_nil, wordsBehind_end (.inl rfl)] at hread
  simp [shellWords?, shellQuote, hread]

theorem toList_names (commands : List String) :
    (Text.joinWith " " (commands.map shellQuote)).toList =
      List.intercalate [' '] ((commands.map String.toList).map shellQuoteChars) := by
  have hspace : (" " : String).toList = [' '] := String.toList_ofList
  rw [Text.toList_joinWith, hspace, List.map_map, List.map_map]
  simp [shellQuote, Function.comp_def]

theorem shellWords?_names (commands : List String) {rest : String}
    (h : rest.toList = [] ∨ rest.toList.head? = some ')') :
    shellWords? (Text.joinWith " " (commands.map shellQuote) ++ rest) = some (commands, rest) := by
  rw [shellWords?, String.toList_append, toList_names, wordsBehind_intercalate _ h]
  simp [Function.comp_def]

theorem stringList_strings {arguments : Markup.Arguments} {name : String} {texts : List String}
    (h : arguments.get? name = some (.strings texts)) :
    Markup.stringList arguments name = .ok texts := by
  simp only [Markup.stringList, h, Value.strings]
  clear h
  induction texts with
  | nil => rfl
  | cons text texts ih =>
    rw [List.map_cons, List.mapM_cons, ih]
    rfl

def checkOpening : String :=
  Text.joinWith "\n" ["# Check dependencies", "check_dependencies() \x7b", "    local deps=("]

def checkClosing : String :=
  Text.joinWith "\n" [")",
    "    local dep",
    "    for dep in \"$\x7bdeps[@]\x7d\"; do",
    "        if ! command -v \"$dep\" &> /dev/null; then",
    "            echo \"Error: $dep is required but not installed.\" >&2",
    "            exit 1",
    "        fi",
    "    done",
    "    echo \"All dependencies satisfied\"",
    "\x7d"]

theorem dependencyCheck_eq {commands : List String} (h : commands ≠ []) :
    dependencyCheck commands =
      checkOpening ++ Text.joinWith " " (commands.map shellQuote) ++ checkClosing := by
  have hcommands : commands.isEmpty = false := by simpa using h
  have hlast : Text.joinWith "\n" ["    local deps=("] = "    local deps=(" := rfl
  unfold dependencyCheck checkOpening checkClosing
  rw [hcommands]
  simp only [Bool.false_eq_true, if_false, Text.joinWith_cons_cons, hlast, String.append_assoc]

theorem head?_checkClosing : checkClosing.toList.head? = some ')' := by
  unfold checkClosing
  rw [Text.joinWith_cons_cons, String.toList_append]
  rfl

/-- A quoted text is one shell word, the text itself. In the check for commands, the words from the
opening parenthesis to the closing one are the commands in their order. -/
theorem shellWords_read_back :
    (∀ (text : String) (given : Markup.Arguments), ∃ filter word,
      Markup.filter? "shell_quote" = some filter ∧ filter (.string text) given = .ok (.string word) ∧
      shellWords? word = some ([text], "")) ∧
    ∀ (commands : List String) (given : Markup.Arguments), commands ≠ [] →
      given.get? "commands" = some (.strings commands) → ∃ function script names,
        Markup.function? "bash_dependencies" = some function ∧
        function given = .ok (.string script) ∧ script = checkOpening ++ names ++ checkClosing ∧
        shellWords? names = some (commands, "") ∧
        shellWords? (names ++ checkClosing) = some (commands, checkClosing) := by
  refine ⟨fun text _ => ⟨_, shellQuote text, rfl, rfl, shellWords?_shellQuote text⟩, ?_⟩
  intro commands given hne hcommands
  have hend : ("" : String).toList = [] ∨ ("" : String).toList.head? = some ')' := .inl rfl
  refine ⟨_, dependencyCheck commands, Text.joinWith " " (commands.map shellQuote), rfl, ?_,
    dependencyCheck_eq hne, ?_, shellWords?_names commands (.inr head?_checkClosing)⟩
  · rw [stringList_strings hcommands]
    rfl
  · simpa using shellWords?_names commands hend

def awkwardNames : List String := ["'", "", "a b\n", "\\'\\"]

theorem awkwardNames_read_back : ∃ function script names,
    Markup.function? "bash_dependencies" = some function ∧
    function [("commands", .strings awkwardNames)] = .ok (.string script) ∧
    script = checkOpening ++ names ++ checkClosing ∧
    shellWords? names = some (awkwardNames, "") ∧
    shellWords? (names ++ checkClosing) = some (awkwardNames, checkClosing) :=
  shellWords_read_back.2 awkwardNames _ (List.cons_ne_nil _ _) rfl

example : shellWords? "'a'\\''b' '' c\\ d" = some (["a'b", "", "c d"], "") := by decide

end Scriptwright.Script
