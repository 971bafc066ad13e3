import Mathlib.Data.List.Sublists
import Scriptwright.Description.Analyzer
import Scriptwright.Proofs.Pattern.Searching
import Scriptwright.Proofs.Template.Builtin
import Scriptwright.Vocabulary

/-!
Which texts get into scripts for analysed descriptions. Whatever a description says, its analysis
passes on only tags, names from fixed lists and fixed blocks of code.
-/
namespace Scriptwright

/-- The names that descriptions can ask for with the standard vocabulary. -/
structure Requirements.AreStandard (r : Requirements) : Prop where
  libraries : r.libraries ⊆ Vocabulary.standard.libraryHints.map Prod.fst
  systemCommands : r.systemCommands ⊆ Description.commandNames

theorem Description.areStandard_analyzeNormal (text : List Char) :
    (analyzeNormal .standard text).requirements.AreStandard := by
  constructor
  · exact List.map_subset _ (List.filter_subset_self _)
  · intro command hcommand
    obtain ⟨entity, hentity, rfl⟩ := List.mem_map.mp hcommand
    obtain ⟨hentity, hlabel⟩ := List.mem_filter.mp hentity
    obtain ⟨label, _, hentity⟩ := List.mem_flatMap.mp hentity
    obtain ⟨f, hf, rfl⟩ := List.mem_map.mp hentity
    obtain rfl : label = .command := by simpa using hlabel
    exact Pattern.text_mem_of_wholeWord hf

namespace Template

def allParts : List (String × String) := [
  ("File reading logic", "Reading input files"), ("File writing logic", "Writing output files"),
  ("Network operations", "Performing network requests"),
  ("GUI setup and interaction", "Setting up the interface")]

theorem mainParts_sublist (a : Analysis) : List.Sublist (mainParts a) allParts := by
  have hpart : ∀ (wanted : Bool) (p : String × String),
      List.Sublist (if wanted then [p] else []) [p] := by
    intro wanted p
    cases wanted
    · exact List.nil_sublist [p]
    · exact List.Sublist.refl [p]
  exact ((((hpart _ _).append (hpart _ _)).append (hpart _ _)).append (hpart _ _))

namespace Builtin

def categoryTags : SpellingAll (IntentCategory.all.map IntentCategory.tag) := ⟨_, by
  unfold IntentCategory.all IntentCategory.tag
  simp only [List.map_cons, List.map_nil]
  repeat constructor⟩

def complexityTags : SpellingAll (Complexity.all.map Complexity.tag) := ⟨_, by
  unfold Complexity.all Complexity.tag
  simp only [List.map_cons, List.map_nil]
  repeat constructor⟩

def libraryNames : SpellingAll (Vocabulary.standard.libraryHints.map Prod.fst) := ⟨_, by
  unfold Vocabulary.standard
  simp only [List.map_cons, List.map_nil]
  repeat constructor⟩

def commandTexts : SpellingAll Description.commandNames := ⟨_, by
  unfold Description.commandNames
  repeat constructor⟩

def requirementNames : List String :=
  ["zenity", "notify-send", "tkinter", "os", "logging", "urllib"]

def requirementTexts : SpellingAll requirementNames := ⟨_, by
  unfold requirementNames
  repeat constructor⟩

theorem requirements_subset {t : Template} (h : t ∈ all) : t.requirements ⊆ requirementNames := by
  have hall : ∀ t ∈ all, t.requirements ⊆ requirementNames := by decide
  exact hall t h

def idleBlock : (language : Language) →
    Spelling (block language "Main functionality" "Hello, World!")
  | .python => ⟨_, Spells.toList_eq (by unfold block say; repeat constructor)⟩
  | .bash => ⟨_, Spells.toList_eq (by unfold block say; repeat constructor)⟩

def blocks : (language : Language) →
    SpellingAll (allParts.map fun (comment, message) => block language comment message)
  | .python => ⟨_, by
    unfold allParts block say
    simp only [List.map_cons, List.map_nil]
    repeat constructor⟩
  | .bash => ⟨_, by
    unfold allParts block say
    simp only [List.map_cons, List.map_nil]
    repeat constructor⟩

def mainTexts (language : Language) : List (List Char) :=
  (idleBlock language).1 :: (blocks language).1.sublists.map (List.intercalate ['\n'])

theorem mainLogic_mem (language : Language) (a : Analysis) :
    (mainLogic language a).toList ∈ mainTexts language := by
  have hfeed : Spells "\n" ['\n'] := .literal _
  unfold mainLogic mainTexts
  split
  · exact List.mem_cons.mpr (.inl (idleBlock language).2)
  · have hparts : List.Sublist
        (((mainParts a).map fun (comment, message) => block language comment message).map
          String.toList) (blocks language).1 := by
      rw [← (blocks language).2.map_toList]
      exact ((mainParts_sublist a).map _).map _
    rw [Text.toList_joinWith, hfeed.toList_eq]
    exact List.mem_cons_of_mem _ (List.mem_map_of_mem (List.mem_sublists.mpr hparts))

def actionTexts : SpellingAll ["Custom Action"] := ⟨_, by repeat constructor⟩

def fileLogicTexts : SpellingAll ["echo \"Processing file: $file\""] := ⟨_, by repeat constructor⟩

def originalTexts : SpellingAll ["ls -la"] := ⟨_, by repeat constructor⟩

def transformedTexts : SpellingAll ["ls -la && notify-send \"Command executed\""] :=
  ⟨_, by repeat constructor⟩

def appTexts : SpellingAll ["Generated App"] := ⟨_, by repeat constructor⟩

def featureTexts : SpellingAll ["main_window", "menu_bar", "status_bar"] :=
  ⟨_, by repeat constructor⟩

def dependencyTexts : List (List Char) := requirementTexts.1 ++ libraryNames.1 ++ commandTexts.1

/-- The texts that names are bound to for analysed descriptions, where no caller binds them. -/
def standardTexts (language : Language) : List (String × List (List Char)) := [
  ("description", categoryTags.1), ("complexity", complexityTags.1),
  ("main_logic", mainTexts language), ("imports", libraryNames.1), ("commands", commandTexts.1),
  ("dependencies", dependencyTexts),
  ("action_name", actionTexts.1), ("file_logic", fileLogicTexts.1),
  ("original_command", originalTexts.1), ("transformed_logic", transformedTexts.1),
  ("app_name", appTexts.1), ("features", featureTexts.1)]

def standardOptions (language : Language) : Options := fun name =>
  (standardTexts language).lookup name

theorem holds_text {options : Options} {name : String} {given : List (List Char)}
    (h : options name = some given) {s : String} (hs : s.toList ∈ given) :
    (slot options name false).Holds (.string s) := by
  refine ⟨s, rfl, fun found hfound => ?_⟩
  obtain rfl := Option.some.inj (h.symm.trans hfound)
  exact hs

theorem holds_texts {options : Options} {name : String} {texts : List String}
    (spelled : SpellingAll texts) (h : options name = some spelled.1) {ss : List String}
    (hss : ss ⊆ texts) : (slot options name true).Holds (.strings ss) := by
  refine ⟨ss, rfl, fun s hs found hfound => ?_⟩
  obtain rfl := Option.some.inj (h.symm.trans hfound)
  exact spelled.2.mem_toList (hss hs)

theorem ownValue_standard {language : Language} {a : Analysis} (h : a.requirements.AreStandard)
    {name : String} {isList : Bool} (hname : (name, isList) ∈ allNames)
    (hne : name ≠ "dependencies") :
    (slot (standardOptions language) name isList).Holds (ownValue language a name) := by
  have hprimary : a.intent.primary ∈ IntentCategory.all := by
    cases a.intent.primary <;> decide
  have hcomplexity : a.complexity ∈ Complexity.all := by
    cases a.complexity <;> decide
  simp only [allNames, commonNames, List.cons_append, List.nil_append, List.mem_cons,
    Prod.mk.injEq, List.not_mem_nil, or_false] at hname
  rcases hname with ⟨rfl, rfl⟩ | ⟨rfl, rfl⟩ | ⟨rfl, rfl⟩ | ⟨rfl, rfl⟩ | ⟨rfl, rfl⟩ | ⟨rfl, rfl⟩ |
    ⟨rfl, rfl⟩ | ⟨rfl, rfl⟩ | ⟨rfl, rfl⟩ | ⟨rfl, rfl⟩ | ⟨rfl, rfl⟩ | ⟨rfl, rfl⟩
  · exact holds_text rfl (categoryTags.2.mem_toList (List.mem_map_of_mem hprimary))
  · exact holds_text rfl (complexityTags.2.mem_toList (List.mem_map_of_mem hcomplexity))
  · exact holds_text rfl (mainLogic_mem language a)
  · exact holds_texts libraryNames rfl h.libraries
  · exact holds_texts commandTexts rfl h.systemCommands
  · exact absurd rfl hne
  · exact holds_text rfl (actionTexts.2.mem_toList List.mem_cons_self)
  · exact holds_text rfl (fileLogicTexts.2.mem_toList List.mem_cons_self)
  · exact holds_text rfl (originalTexts.2.mem_toList List.mem_cons_self)
  · exact holds_text rfl (transformedTexts.2.mem_toList List.mem_cons_self)
  · exact holds_text rfl (appTexts.2.mem_toList List.mem_cons_self)
  · exact holds_texts featureTexts rfl (List.Subset.refl _)

theorem dependencies_own {t : Template} {a : Analysis} (h : t.Suits a)
    (now : Moment) (language : Language) :
    t.dependencies (t.bindings now language a []) =
      (t.requirements ++ a.requirements.libraries ++ a.requirements.systemCommands).eraseDups := by
  have himports : (t.bindings now language a []).get? "imports" =
      some (.strings a.requirements.libraries) :=
    get?_bindings_own h (List.mem_append_left _ (by decide : ("imports", true) ∈ commonNames))
      (by decide) rfl
  have hcommands : (t.bindings now language a []).get? "commands" =
      some (.strings a.requirements.systemCommands) :=
    get?_bindings_own h (List.mem_append_left _ (by decide : ("commands", true) ∈ commonNames))
      (by decide) rfl
  rw [dependencies_eq, boundStrings_of_get? himports, boundStrings_of_get? hcommands]

theorem toList_mem_dependencyTexts {t : Template} (ht : t ∈ all) {a : Analysis}
    (h : t.Suits a) (ha : a.requirements.AreStandard) {now : Moment} {language : Language}
    {name : String} (hname : name ∈ t.dependencies (t.bindings now language a [])) :
    name.toList ∈ dependencyTexts := by
  rw [dependencies_own h, List.mem_eraseDups, List.mem_append, List.mem_append] at hname
  unfold dependencyTexts
  rcases hname with (hname | hname) | hname
  · exact List.mem_append_left _ (List.mem_append_left _
      (requirementTexts.2.mem_toList (requirements_subset ht hname)))
  · exact List.mem_append_left _ (List.mem_append_right _
      (libraryNames.2.mem_toList (ha.libraries hname)))
  · exact List.mem_append_right _ (commandTexts.2.mem_toList (ha.systemCommands hname))

/-- With the values of an analysed description, and no others, all slots are filled. -/
theorem standard_hold {t : Template} (ht : t ∈ all) {a : Analysis} (h : t.Suits a)
    (ha : a.requirements.AreStandard) (now : Moment) (language : Language) :
    (slots (standardOptions language) t.category).Hold (t.scope now language a []).get? := by
  refine slots_hold h (fun name isList hname hne _ =>
    ownValue_standard ha (boundNames_subset _ hname) hne) (fun _ _ _ _ hv => by cases hv) ?_
  intro name hname found hfound
  have hgiven : standardOptions language "dependencies" = some dependencyTexts := rfl
  obtain rfl := Option.some.inj (hgiven.symm.trans hfound)
  exact toList_mem_dependencyTexts ht h ha hname

end Builtin

end Template

end Scriptwright
