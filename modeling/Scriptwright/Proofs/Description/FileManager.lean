import Scriptwright.Description.Analyzer
import Scriptwright.Proofs.Pattern.Searching

/-!
Descriptions that ask for a file manager. The rule for them comes first, so whatever else they say,
they are for a file manager action. What language they suggest is still a race between the words
that speak for either one: the words that ask for a file manager and the bonus for such a request
give Bash a start of seven points, which enough other words can make up for.
-/
namespace Scriptwright

namespace Pattern

theorem exists_found_of_occurs {pattern : Pattern} (hneeds : pattern.needsChar = true)
    {text : List Char} (h : pattern.occurs text = true) :
    ∃ f ∈ pattern.findAll text, f.text <:+: text := by
  rw [occurs_eq hneeds] at h
  obtain ⟨f, hf⟩ := List.exists_mem_of_ne_nil (pattern.findAll text) (by simpa using h)
  obtain ⟨-, front, rest, hsplit, -⟩ := (finds_findAll hneeds text).slice hf
  exact ⟨f, hf, front, rest, hsplit.symm⟩

theorem exists_mentions_of_wholeWord {words : List String} {text : List Char}
    (hneeds : (wholeWord words).needsChar = true) (h : (wholeWord words).occurs text = true) :
    ∃ word ∈ words, Text.mentions text word = true := by
  obtain ⟨f, hf, hinfix⟩ := exists_found_of_occurs hneeds h
  refine ⟨_, text_mem_of_wholeWord hf, (Text.mentions_iff _ _).mpr ?_⟩
  rwa [String.toList_ofList]

end Pattern

theorem KeywordCategory.weight_le_score {c : KeywordCategory} {text : List Char} {keyword : String}
    (hmem : keyword ∈ c.keywords) (h : Text.mentions text keyword = true) :
    c.weight ≤ c.score text :=
  Nat.le_mul_of_pos_left _ (List.countP_pos_iff.mpr ⟨keyword, hmem, h⟩)

theorem Vocabulary.score_category_le (v : Vocabulary) (language : Language) {c : KeywordCategory}
    (hmem : c ∈ v.categories language) (text : List Char) :
    c.score text ≤ v.score language text := by
  unfold score
  generalize v.categories language = categories at hmem ⊢
  induction categories with
  | nil => cases hmem
  | cons first rest ih =>
    rw [List.foldr_cons]
    rcases List.mem_cons.mp hmem with rfl | hmem
    · exact Nat.le_add_right _ _
    · exact (ih hmem).trans (Nat.le_add_left _ _)

namespace Description

def NamesFileManager (text : List Char) : Prop :=
  nemoWord.occurs text = true ∨ Text.mentions text "file manager" = true ∨
    Text.mentions text "context menu" = true

theorem classify_fileManager (s : Signals) (h : NamesFileManager s.text) :
    classify s = .nemoIntegration := by
  have hrule : (s.matchesPattern nemoWord || s.mentions "file manager" ||
      s.mentions "context menu") = true := by
    simpa [NamesFileManager, Signals.matchesPattern, Signals.mentions, or_assoc] using h
  simp only [classify, primaryRules, List.find?_cons, hrule]

theorem primary_fileManager (v : Vocabulary) {text : List Char} (h : NamesFileManager text) :
    (analyzeNormal v text).intent.primary = .nemoIntegration :=
  classify_fileManager ⟨text, actions text, objects text⟩ h

theorem four_le_score_bash {text : List Char} (h : NamesFileManager text) :
    4 ≤ Vocabulary.standard.score .bash text := by
  obtain ⟨c, hc, hweight, hwords⟩ : ∃ c ∈ Vocabulary.standard.categories .bash, c.weight = 4 ∧
      ["nemo", "file manager", "context menu"] ⊆ c.keywords := by decide
  have hmentions : ∃ word ∈ ["nemo", "file manager", "context menu"],
      Text.mentions text word = true := by
    rcases h with h | h | h
    · obtain ⟨word, hmem, hword⟩ := Pattern.exists_mentions_of_wholeWord (by decide) h
      exact ⟨word, by simp_all, hword⟩
    · exact ⟨_, by simp, h⟩
    · exact ⟨_, by simp, h⟩
  obtain ⟨word, hmem, hword⟩ := hmentions
  calc 4 = c.weight := hweight.symm
    _ ≤ c.score text := KeywordCategory.weight_le_score (hwords hmem) hword
    _ ≤ Vocabulary.standard.score .bash text := Vocabulary.score_category_le _ _ hc text

theorem languageScores_fileManager (v : Vocabulary) {text : List Char} (h : NamesFileManager text) :
    languageScores v text (analyzeNormal v text).intent =
      ⟨v.score .python text + (if anyMention text [".py", "python"] then 2 else 0),
        v.score .bash text + 3 + (if anyMention text [".sh", "bash", "shell"] then 2 else 0)⟩ := by
  simp only [languageScores, intentBonus, primary_fileManager v h, Nat.add_zero]

theorem LanguageScores.winner_eq_bash_iff (s : LanguageScores) :
    s.winner = .bash ↔ s.python < s.bash := by
  unfold winner
  split
  · rename_i hle
    simp [Nat.not_lt.mpr hle]
  · rename_i hlt
    simp [Nat.not_le.mp hlt]

theorem suggestedLanguage_fileManager (v : Vocabulary) {text : List Char}
    (h : NamesFileManager text) :
    (analyzeNormal v text).suggestedLanguage = .bash ↔
      v.score .python text + (if anyMention text [".py", "python"] then 2 else 0) <
        v.score .bash text + 3 + (if anyMention text [".sh", "bash", "shell"] then 2 else 0) := by
  rw [← LanguageScores.winner_eq_bash_iff ⟨_, _⟩, ← languageScores_fileManager v h]
  rfl

/-- A description that asks for a file manager is for a file manager action. It suggests Bash
exactly if the words for Python score less than those for Bash, which start from seven. -/
theorem fileManager_suggests_bash_iff (description : String)
    (hlength : description.utf8ByteSize ≤ maxBytes)
    (hnames : NamesFileManager (normalizeChars description.toList)) :
    let text := normalizeChars description.toList
    let python := Vocabulary.standard.score .python text +
      (if anyMention text [".py", "python"] then 2 else 0)
    let bash := Vocabulary.standard.score .bash text + 3 +
      (if anyMention text [".sh", "bash", "shell"] then 2 else 0)
    ∃ a, analyze .standard description = .ok a ∧ a.intent.primary = .nemoIntegration ∧
      (a.suggestedLanguage = .bash ↔ python < bash) ∧ 7 ≤ bash ∧
      (python < 7 → a.suggestedLanguage = .bash) := by
  intro text python bash
  have hsuggested := suggestedLanguage_fileManager .standard hnames
  have hstart : 7 ≤ bash := by
    have hwords : 4 ≤ Vocabulary.standard.score .bash text := four_le_score_bash hnames
    omega
  exact ⟨analyzeNormal .standard text, if_neg (Nat.not_lt.mpr hlength),
    primary_fileManager .standard hnames, hsuggested, hstart,
    fun hfew => hsuggested.mpr (hfew.trans_le hstart)⟩

/-- A description with no other word that counts. -/
theorem cleanup_suggests_bash : ∃ a, analyze .standard "Clean up in nemo" = .ok a ∧
    a.intent.primary = .nemoIntegration ∧ a.suggestedLanguage = .bash := by
  have hnames : NamesFileManager (normalizeChars "Clean up in nemo".toList) :=
    .inl (by decide)
  obtain ⟨a, ha, hprimary, -, -, hbash⟩ :=
    fileManager_suggests_bash_iff "Clean up in nemo" (by decide) hnames
  exact ⟨a, ha, hprimary, hbash (by decide +kernel)⟩

/-- The formats that a file manager action converts between speak for Python. -/
theorem conversion_suggests_python :
    NamesFileManager (normalizeChars "Convert CSV to JSON from Nemo".toList) ∧
    ∃ a, analyze .standard "Convert CSV to JSON from Nemo" = .ok a ∧
      a.intent.primary = .nemoIntegration ∧ a.suggestedLanguage = .python := by
  have hnames : NamesFileManager (normalizeChars "Convert CSV to JSON from Nemo".toList) :=
    .inl (by decide)
  exact ⟨hnames, _, if_neg (by decide), primary_fileManager .standard hnames, by decide +kernel⟩

end Description

end Scriptwright
