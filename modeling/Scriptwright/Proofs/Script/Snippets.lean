import Scriptwright.Proofs.Text.Search
import Scriptwright.Script.Snippets
import Scriptwright.Template.BuiltinPython

/-!
Texts with their characters at hand, the pieces of code that templates share among them. To read the
characters out of a string is much work for a proof that computes, so they are found beforehand, by
matching a text with the lists it is made of.
-/
namespace Scriptwright

inductive Spells : String → List Char → Prop
  | literal (cs : List Char) : Spells (String.ofList cs) cs
  | append {s t : String} {cs ds : List Char} (h : Spells s cs) (h' : Spells t ds) :
      Spells (s ++ t) (cs ++ ds)

inductive SpellsAll : List String → List (List Char) → Prop
  | nil : SpellsAll [] []
  | cons {s : String} {cs : List Char} {texts : List String} {spelled : List (List Char)}
      (h : Spells s cs) (h' : SpellsAll texts spelled) : SpellsAll (s :: texts) (cs :: spelled)

abbrev Spelling (text : String) := { cs : List Char // text.toList = cs }

abbrev SpellingAll (texts : List String) :=
  { spelled : List (List Char) // SpellsAll texts spelled }

theorem Spells.toList_eq {s : String} {cs : List Char} (h : Spells s cs) : s.toList = cs := by
  induction h with
  | literal cs => exact String.toList_ofList
  | append h h' ih ih' => rw [String.toList_append, ih, ih']

theorem SpellsAll.map_toList {texts : List String} {spelled : List (List Char)}
    (h : SpellsAll texts spelled) : texts.map String.toList = spelled := by
  induction h with
  | nil => rfl
  | cons h h' ih => rw [List.map_cons, h.toList_eq, ih]

theorem SpellsAll.mem_toList {texts : List String} {spelled : List (List Char)}
    (h : SpellsAll texts spelled) {s : String} (hs : s ∈ texts) : s.toList ∈ spelled := by
  rw [← h.map_toList]
  exact List.mem_map_of_mem hs

theorem SpellsAll.toList_joinWith {texts : List String} {spelled : List (List Char)}
    {sep : String} {cs : List Char} (h : SpellsAll texts spelled) (hsep : Spells sep cs) :
    (Text.joinWith sep texts).toList = List.intercalate cs spelled := by
  rw [Text.toList_joinWith, hsep.toList_eq, h.map_toList]

theorem SpellsAll.toList_source {lines : List String} {spelled : List (List Char)}
    (h : SpellsAll lines spelled) :
    (Template.Builtin.source lines).toList = spelled.flatMap (· ++ ['\n']) := by
  have hfeed : ("\n" : String).toList = ['\n'] := String.toList_ofList
  unfold Template.Builtin.source
  rw [String.toList_join, ← h.map_toList]
  simp [List.flatMap_map, String.toList_append, hfeed]

namespace Script

def banner : Spelling Signature.current.banner :=
  ⟨_, Spells.toList_eq (by unfold Signature.banner; repeat constructor)⟩

def colors : Spelling terminalColors :=
  ⟨_, by
    unfold terminalColors palette
    exact SpellsAll.toList_joinWith (by repeat constructor) (by constructor)⟩

/-- Libraries that are not imported under their own name only. -/
def aliased : List String := ["pandas", "numpy", "matplotlib", "tkinter"]

def aliasedNames : { names // SpellsAll aliased names } := ⟨_, by
  unfold aliased
  repeat constructor⟩

def aliasedImports : { texts // SpellsAll (aliased.map pythonImport) texts } := ⟨_, by
  unfold aliased pythonImport
  simp only [List.map_cons, List.map_nil]
  repeat constructor⟩

def importWord : Spelling "import " := ⟨_, String.toList_ofList⟩

def importChars (library : List Char) : List Char :=
  ((aliasedNames.1.zip aliasedImports.1).lookup library).getD (importWord.1 ++ library)

theorem pythonImport_of_not_mem {library : String} (h : library ∉ aliased) :
    pythonImport library = "import " ++ library := by
  unfold pythonImport
  split <;> simp_all [aliased]

theorem lookup_toList {β : Type} (keys : List String) (f : String → β) (key : String) :
    (keys.map fun k => (k.toList, f k)).lookup key.toList =
      if key ∈ keys then some (f key) else none := by
  induction keys with
  | nil => rfl
  | cons k keys ih =>
    rw [List.map_cons, List.lookup_cons, ih]
    by_cases hk : key = k
    · subst hk
      simp
    · have hne : (key.toList == k.toList) = false := by
        simpa [String.toList_inj] using hk
      simp [hne, hk]

theorem toList_pythonImport (library : String) :
    (pythonImport library).toList = importChars library.toList := by
  have hzip : aliasedNames.1.zip aliasedImports.1 =
      aliased.map fun a => (a.toList, (pythonImport a).toList) := by
    rw [← aliasedNames.2.map_toList, ← aliasedImports.2.map_toList, List.map_map, List.zip_map']
    rfl
  unfold importChars
  rw [hzip, lookup_toList]
  by_cases h : library ∈ aliased
  · rw [if_pos h, Option.getD_some]
  · rw [if_neg h, Option.getD_none, pythonImport_of_not_mem h, String.toList_append]
    exact congrArg (· ++ library.toList) importWord.2

theorem toList_pythonImports (libraries : List String) :
    (pythonImports libraries).toList =
      List.intercalate ['\n'] (libraries.map fun l => importChars l.toList) := by
  have hfeed : Spells "\n" ['\n'] := .literal _
  unfold pythonImports
  rw [Text.toList_joinWith, hfeed.toList_eq, List.map_map]
  simp only [Function.comp_def, toList_pythonImport]

theorem toList_joinWith_middle (before after : List String) {bs as : List (List Char)}
    {left middle right : String} {ls rs : List Char} (hbefore : SpellsAll before bs)
    (hleft : Spells left ls) (hright : Spells right rs) (hafter : SpellsAll after as) :
    (Text.joinWith "\n" (before ++ (left ++ middle ++ right) :: after)).toList =
      (bs.flatMap (· ++ ['\n']) ++ ls) ++ middle.toList ++ (rs ++ as.flatMap ('\n' :: ·)) := by
  have hfeed : Spells "\n" ['\n'] := .literal _
  rw [Text.toList_joinWith, hfeed.toList_eq, List.map_append, List.map_cons, hbefore.map_toList,
    hafter.map_toList, String.toList_append, String.toList_append, hleft.toList_eq,
    hright.toList_eq]
  have hrest : ∀ line : List Char, List.intercalate ['\n'] (line :: as) =
      line ++ as.flatMap ('\n' :: ·) := by
    clear hafter
    induction as with
    | nil => simp
    | cons a as ih => intro line; rw [List.intercalate_cons_cons, ih]; simp
  clear hbefore
  induction bs with
  | nil => simp [hrest]
  | cons b bs ih =>
    cases bs with
    | nil => simp [hrest, List.intercalate_cons_cons]
    | cons c cs =>
      rw [List.cons_append, List.cons_append, List.intercalate_cons_cons, ← List.cons_append, ih]
      simp

def commandCheck : { p : List Char × List Char // ∀ commands : List String, commands ≠ [] →
    (dependencyCheck commands).toList =
      p.1 ++ List.intercalate [' '] (commands.map fun c => shellQuoteChars c.toList) ++ p.2 } :=
  ⟨(_, _), by
    intro commands hne
    have hspace : Spells " " [' '] := .literal _
    have hnames : (Text.joinWith " " (commands.map shellQuote)).toList =
        List.intercalate [' '] (commands.map fun c => shellQuoteChars c.toList) := by
      rw [Text.toList_joinWith, hspace.toList_eq, List.map_map]
      simp [shellQuote, Function.comp_def]
    have hcommands : commands.isEmpty = false := by simpa using hne
    unfold dependencyCheck
    rw [hcommands, ← hnames]
    exact toList_joinWith_middle [_, _] _ (by repeat constructor) (by constructor)
      (by constructor) (by repeat constructor)⟩

end Script

end Scriptwright
