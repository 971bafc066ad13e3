import Scriptwright.Proofs.Description.FileManager
import Scriptwright.Proofs.Description.NormalForm
import Scriptwright.Proofs.Generation.Draft

/-!
Scripts that run a command for a phone. A request for one is a description like any other, so its
words are classified: the words that ask for KDE Connect are always among them, but words that ask
for a file manager come first, and then the command is lost.
-/
namespace Scriptwright

open Description Markup Template

namespace Description

theorem classify_kdeConnect (s : Signals) (h : ¬ NamesFileManager s.text)
    (hphrase : Text.mentions s.text "kde connect" = true) : classify s = .kdeConnect := by
  have hrule : (s.matchesPattern nemoWord || s.mentions "file manager" ||
      s.mentions "context menu") = false := by
    simpa [NamesFileManager, Signals.matchesPattern, Signals.mentions, not_or, and_assoc] using h
  have hrule' : s.mentions "kde connect" = true := hphrase
  simp only [classify, primaryRules, List.find?_cons, hrule, hrule', Bool.true_or]

theorem primary_kdeConnect (v : Vocabulary) {text : List Char} (h : ¬ NamesFileManager text)
    (hphrase : Text.mentions text "kde connect" = true) :
    (analyzeNormal v text).intent.primary = .kdeConnect :=
  classify_kdeConnect ⟨text, actions text, objects text⟩ h hphrase

end Description

def assignment : String := "ORIGINAL_COMMAND="

def functionStart : String := "run_transformed_command() \x7b\n"

def functionEnd : String := "\n\x7d\n"

/-- The parts of a template, the last one first, end with the command and the function. -/
def endsWithCommand : List Part → Bool
  | .text c :: .shown n' style' :: .text b :: .shown n style :: .text a :: _ =>
    n' = "transformed_logic" && style' = .indented 4 && n = "original_command" &&
      style = .shellWord && assignment.toList.isSuffixOf a && ['\n'].isPrefixOf b &&
      functionStart.toList.isSuffixOf b && functionEnd.toList.isPrefixOf c
  | _ => false

set_option maxRecDepth 10000 in
theorem kdeConnect_endsWithCommand :
    (Builtin.Bash.kdeConnect.outline?.map (·.reverse)).any endsWithCommand := by
  rw [outline?_of_source rfl (by repeat constructor)]
  decide +kernel

theorem exists_ending : ∃ middle last : List Char, ∀ parts,
    Builtin.Bash.kdeConnect.outline? = some parts → ∀ (r : Lookup) (command logic : String),
      r "original_command" = some (.string command) →
      r "transformed_logic" = some (.string logic) →
      ∀ text, writeAll r parts = some text →
        ∃ first, text = first ++ assignment.toList ++ Script.shellQuoteChars command.toList ++
          '\n' :: middle ++ functionStart.toList ++ Script.indentBlockChars 4 logic.toList ++
          functionEnd.toList ++ last := by
  have hend := kdeConnect_endsWithCommand
  cases hparts : Builtin.Bash.kdeConnect.outline? with
  | none => exact ⟨[], [], fun parts h => by cases h⟩
  | some parts =>
    rw [hparts] at hend
    simp only [Option.map_some, Option.any_some] at hend
    unfold endsWithCommand at hend
    split at hend
    · rename_i c n' style' b n style a front hreverse
      simp only [Bool.and_eq_true, decide_eq_true_eq, List.isPrefixOf_iff_prefix,
        List.isSuffixOf_iff_suffix] at hend
      obtain ⟨⟨⟨⟨⟨⟨⟨rfl, rfl⟩, rfl⟩, rfl⟩, ⟨a', rfl⟩⟩, hfeed⟩, ⟨b', rfl⟩⟩, ⟨last, rfl⟩⟩ := hend
      cases b' with
      | nil => exact absurd hfeed (by decide)
      | cons feed middle =>
        obtain ⟨rest, hrest⟩ := hfeed
        obtain ⟨rfl, -⟩ := List.cons.inj hrest
        refine ⟨middle, last, fun parts' hparts' r command logic hcommand hlogic text htext => ?_⟩
        obtain rfl := Option.some.inj hparts'
        rw [List.reverse_eq_iff.mp hreverse] at htext
        simp only [List.reverse_cons, List.append_assoc, List.cons_append, List.nil_append] at htext
        rw [writeAll_append] at htext
        obtain ⟨first, hfirst, htext⟩ := Option.bind_eq_some_iff.mp htext
        simp only [writeAll, Part.write, hcommand, hlogic, Option.bind_some, Style.show?,
          bind, pure, Option.some.injEq] at htext
        exact ⟨first ++ a', by rw [← htext]; simp⟩
    · cases hend

namespace Session

theorem mentions_kdeConnect (description command : String) :
    Text.mentions (normalizeChars (kdeRequest description command).description.toList)
      "kde connect" = true := by
  have hsplit : (kdeRequest description command).description.toList =
      (description ++ " - Transform command \"" ++ command ++ "\"").toList ++ ' ' ::
        ("for KDE Connect".toList ++ ' ' :: "execution".toList) := by
    simp [kdeRequest]
  rw [hsplit]
  exact mentions_between _ (by decide) _

def kdeAnalysis (s : Session) (description command : String) : Analysis :=
  analyzeNormal s.generator.vocabulary
    (normalizeChars (kdeRequest description command).description.toList)

theorem isBlankText_kdeRequest (description command : String) :
    Text.isBlankText (kdeRequest description command).description.toList = false := by
  have hdash : '-' ∈ (kdeRequest description command).description.toList := by
    simp [kdeRequest, String.toList_append]
  exact (Text.isBlankText_eq_false_iff _).mpr ⟨'-', hdash, by decide⟩

theorem exists_kdeScript {s : Session} (now : Moment) {description command : String}
    (he : Engine.ofCatalog Catalog.builtin = .ok s.generator.engine)
    (hlength : (kdeRequest description command).description.utf8ByteSize ≤ maxBytes)
    (t : Template) (ht : t ∈ Builtin.all) (hbash : t.language = .bash)
    (hcategory :
      t.category = Category.ofIntent (s.kdeAnalysis description command).intent.primary) :
    let a := s.kdeAnalysis description command
    let overrides := (kdeRequest description command).templateOverrides
    ∃ parts text, t.outline? = some parts ∧
      writeAll (t.scope now .bash a overrides).get? parts = some text ∧
      (s.generateKdeConnect now description command).1.code = String.ofList text ∧
      (s.generateKdeConnect now description command).1.metadata.templateUsed = t.name := by
  intro a overrides
  have hkinds : t.WellKinded overrides := by
    refine Builtin.wellKinded_of_strings ht fun name v hmem => ?_
    simp only [overrides, kdeRequest, List.mem_cons, Prod.mk.injEq, List.not_mem_nil,
      or_false] at hmem
    rcases hmem with ⟨rfl, rfl⟩ | ⟨rfl, rfl⟩ <;> exact ⟨by decide, _, rfl⟩
  obtain ⟨parts, text, script, hdraft, hparts, hwrite, hcode, hname, -⟩ := exists_script now he
    (isBlankText_kdeRequest description command) hlength ht hkinds hbash hcategory
  rw [hbash] at hwrite
  refine ⟨parts, text, hparts, hwrite, ?_⟩
  unfold generateKdeConnect
  rw [generate_of_draft hdraft]
  exact ⟨hcode, hname⟩

theorem templateUsed_of_namesFileManager {s : Session} (now : Moment)
    {description command : String}
    (he : Engine.ofCatalog Catalog.builtin = .ok s.generator.engine)
    (hlength : (kdeRequest description command).description.utf8ByteSize ≤ maxBytes)
    (h : NamesFileManager
      (normalizeChars (kdeRequest description command).description.toList)) :
    (s.generateKdeConnect now description command).1.metadata.templateUsed =
      "bash_nemo_action" := by
  have hprimary : (s.kdeAnalysis description command).intent.primary = .nemoIntegration :=
    primary_fileManager _ h
  have hcategory : Builtin.Bash.nemoAction.category =
      Category.ofIntent (s.kdeAnalysis description command).intent.primary := by
    rw [hprimary]
    rfl
  obtain ⟨_, _, _, _, _, hused⟩ :=
    exists_kdeScript now he hlength Builtin.Bash.nemoAction (by simp [Builtin.all]) rfl hcategory
  exact hused

theorem exists_carrying {s : Session} (now : Moment) {description command : String}
    (he : Engine.ofCatalog Catalog.builtin = .ok s.generator.engine)
    (hlength : (kdeRequest description command).description.utf8ByteSize ≤ maxBytes)
    (h : ¬ NamesFileManager
      (normalizeChars (kdeRequest description command).description.toList)) :
    (s.generateKdeConnect now description command).1.metadata.templateUsed =
      "bash_kde_connect" ∧
    ∃ parts text r, Builtin.Bash.kdeConnect.outline? = some parts ∧
      writeAll r parts = some text ∧ r "original_command" = some (.string command) ∧
      r "transformed_logic" =
        some (.string (command ++ " && notify-send \"Command executed\"")) ∧
      (s.generateKdeConnect now description command).1.code = String.ofList text := by
  have hprimary : (s.kdeAnalysis description command).intent.primary = .kdeConnect :=
    primary_kdeConnect _ h (mentions_kdeConnect description command)
  have hcategory : Builtin.Bash.kdeConnect.category =
      Category.ofIntent (s.kdeAnalysis description command).intent.primary := by
    rw [hprimary]
    rfl
  obtain ⟨parts, text, hparts, hwrite, hcode, hused⟩ :=
    exists_kdeScript now he hlength Builtin.Bash.kdeConnect (by simp [Builtin.all]) rfl hcategory
  refine ⟨hused, parts, text, _, hparts, hwrite, ?_, ?_, hcode⟩ <;>
  · rw [get?_scope, if_neg (by decide), get?_bindings]
    simp [kdeRequest, Entries.get?_cons]

end Session

/-- A request to run a command gets a script from the KDE Connect template, with the quoted command
in an assignment and the command in the function that runs it, exactly when no words in it ask for
a file manager. Otherwise the script is a file manager action. -/
theorem kdeConnect_carries_command_iff {s : Session}
    (he : Engine.ofCatalog Catalog.builtin = .ok s.generator.engine) :
    ∃ middle last : String, ∀ (now : Moment) (description command : String),
      (Session.kdeRequest description command).description.utf8ByteSize ≤ maxBytes →
      let text := normalizeChars (Session.kdeRequest description command).description.toList
      let r := (s.generateKdeConnect now description command).1
      ((r.metadata.templateUsed = "bash_kde_connect" ∧ ∃ first : String, r.code =
          first ++ "ORIGINAL_COMMAND=" ++ Script.shellQuote command ++ "\n" ++ middle ++
          "run_transformed_command() \x7b\n" ++
          Script.indentBlock 4 (command ++ " && notify-send \"Command executed\"") ++
          "\n\x7d\n" ++ last) ↔ ¬ NamesFileManager text) ∧
      (NamesFileManager text → r.metadata.templateUsed = "bash_nemo_action") := by
  obtain ⟨middle, last, hending⟩ := exists_ending
  refine ⟨String.ofList middle, String.ofList last, ?_⟩
  intro now description command hlength text r
  have hnemo := Session.templateUsed_of_namesFileManager now he hlength
  refine ⟨⟨fun ⟨hused, _⟩ hnames => ?_, fun hnames => ?_⟩, hnemo⟩
  · have hother : r.metadata.templateUsed = "bash_nemo_action" := hnemo hnames
    rw [hused] at hother
    exact absurd hother (by decide)
  · obtain ⟨hused, parts, written, lookup, hparts, hwrite, hcommand, hlogic, hcode⟩ :=
      Session.exists_carrying now he hlength hnames
    obtain ⟨first, hfirst⟩ := hending parts hparts lookup _ _ hcommand hlogic written hwrite
    refine ⟨hused, String.ofList first, ?_⟩
    show (s.generateKdeConnect now description command).1.code = _
    rw [hcode, hfirst, ← String.toList_inj]
    simp [Script.shellQuote, Script.indentBlock, assignment, functionStart, functionEnd]

/-- A request whose words ask for no file manager. -/
theorem listing_carried : ∃ e, Engine.ofCatalog Catalog.builtin = .ok e ∧
    ∃ first middle last : String,
      ((Session.ofEngine e).generateKdeConnect ⟨0, 0⟩ "List files" "ls").1.code =
        first ++ "ORIGINAL_COMMAND=" ++ Script.shellQuote "ls" ++ "\n" ++ middle ++
        "run_transformed_command() \x7b\n" ++
        Script.indentBlock 4 ("ls" ++ " && notify-send \"Command executed\"") ++
        "\n\x7d\n" ++ last := by
  obtain ⟨e, he⟩ := Builtin.exists_engine
  obtain ⟨middle, last, hall⟩ := kdeConnect_carries_command_iff (s := .ofEngine e) he
  have hnames : ¬ NamesFileManager
      (normalizeChars (Session.kdeRequest "List files" "ls").description.toList) := by
    unfold NamesFileManager
    decide +kernel
  obtain ⟨_, first, hcode⟩ :=
    (hall ⟨0, 0⟩ "List files" "ls" (by decide)).1.mpr hnames
  exact ⟨e, he, first, middle, last, hcode⟩

/-- Opening the file manager from the phone makes a file manager action instead. -/
theorem nemo_not_carried : ∃ e, Engine.ofCatalog Catalog.builtin = .ok e ∧
    ((Session.ofEngine e).generateKdeConnect ⟨0, 0⟩ "Open nemo" "ls").1.metadata.templateUsed ≠
      "bash_kde_connect" := by
  obtain ⟨e, he⟩ := Builtin.exists_engine
  have hnames : NamesFileManager
      (normalizeChars (Session.kdeRequest "Open nemo" "ls").description.toList) := by
    unfold NamesFileManager
    decide +kernel
  have hnemo := Session.templateUsed_of_namesFileManager (s := .ofEngine e) ⟨0, 0⟩ he
    (by decide) hnames
  refine ⟨e, he, ?_⟩
  rw [hnemo]
  decide

end Scriptwright
