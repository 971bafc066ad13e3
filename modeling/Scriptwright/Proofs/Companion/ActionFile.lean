import Scriptwright.Companion
import Scriptwright.Description.Analyzer
import Scriptwright.Proofs.Description.EntityScan
import Scriptwright.Proofs.Text.Order
import Scriptwright.Proofs.Text.Rows

/-!
The file of a file manager action. It is read row by row, so a value with a line feed in it makes
more rows of one. The comment is cut to its first line, and what an analysis finds has no line feeds
in it, but the label and the icon stand there as they come.
-/
namespace Scriptwright

namespace Companion

/-- The text goes on to its end with a dot and the extension, and that dot is the last one. -/
def EndsIn (text extension : String) : Prop :=
  ∃ stem, text = stem ++ "." ++ extension ∧ '.' ∉ extension.toList

theorem extension?_eq_some_iff {name extension : String} :
    extension? name = some extension ↔ EndsIn name extension := by
  unfold extension? EndsIn
  rw [Option.map_eq_some_iff]
  constructor
  · rintro ⟨⟨stem, after⟩, hsplit, rfl⟩
    obtain ⟨hname, hdot⟩ := Text.splitLast?_eq_some_iff.mp hsplit
    refine ⟨String.ofList stem, ?_, ?_⟩
    · apply String.toList_inj.mp
      simp [hname]
    · rwa [String.toList_ofList]
  · rintro ⟨stem, rfl, hdot⟩
    refine ⟨(stem.toList, extension.toList), ?_, String.ofList_toList⟩
    apply Text.splitLast?_eq_some_iff.mpr
    exact ⟨by simp, hdot⟩

theorem endsIn_of_file {text : List Char} {e : Entity} (he : e ∈ Description.entities text)
    (hlabel : e.label = .file) :
    ∃ extension ∈ Description.fileExtensions, EndsIn e.text extension := by
  obtain ⟨label, -, he⟩ := List.mem_flatMap.mp he
  obtain ⟨f, hf, rfl⟩ := List.mem_map.mp he
  obtain rfl : label = .file := hlabel
  obtain ⟨_, _, htakes⟩ := Pattern.takes_of_mem_findFrom hf
  obtain ⟨stem, extension, hmem, htext, -⟩ := Description.takes_filePattern.mp htakes
  refine ⟨extension, hmem, String.ofList stem, ?_, Description.dot_not_mem_extension hmem⟩
  apply String.toList_inj.mp
  simp [htext]

theorem mem_fileExtensions_iff {a : Analysis} {extension : String} :
    extension ∈ fileExtensions a ↔
      ∃ e ∈ a.entities.filter (·.label = .file), EndsIn e.text extension := by
  unfold fileExtensions
  rw [Text.mem_ascending, List.mem_filterMap]
  simp only [extension?_eq_some_iff]

section Analyzed

variable {v : Vocabulary} {description : String} {a : Analysis}

theorem endsIn_of_analyze (h : Description.analyze v description = .ok a) {e : Entity}
    (he : e ∈ a.entities.filter (·.label = .file)) :
    ∃ extension ∈ Description.fileExtensions, EndsIn e.text extension := by
  obtain ⟨hmem, hlabel⟩ := List.mem_filter.mp he
  rw [Description.entities_of_analyze h] at hmem
  exact endsIn_of_file hmem (of_decide_eq_true hlabel)

/-- A text has one extension at most, so those that are listed are the ones that are known. -/
theorem fileExtensions_subset (h : Description.analyze v description = .ok a) :
    fileExtensions a ⊆ Description.fileExtensions := by
  intro extension hmem
  obtain ⟨e, he, hends⟩ := mem_fileExtensions_iff.mp hmem
  obtain ⟨known, hknown, hends'⟩ := endsIn_of_analyze h he
  rw [← extension?_eq_some_iff] at hends hends'
  rw [hends] at hends'
  rwa [Option.some.inj hends']

theorem fileExtensions_eq_nil_iff (h : Description.analyze v description = .ok a) :
    fileExtensions a = [] ↔ a.entities.filter (·.label = .file) = [] := by
  rw [List.eq_nil_iff_forall_not_mem, List.eq_nil_iff_forall_not_mem]
  constructor
  · intro hnone e he
    obtain ⟨extension, -, hends⟩ := endsIn_of_analyze h he
    exact hnone extension (mem_fileExtensions_iff.mpr ⟨e, he, hends⟩)
  · intro hnone extension hmem
    obtain ⟨e, he, -⟩ := mem_fileExtensions_iff.mp hmem
    exact hnone e he

end Analyzed

theorem extensionList_of_ne_nil {a : Analysis} (h : fileExtensions a ≠ []) :
    extensionList a = String.join ((fileExtensions a).map (· ++ ";")) := by
  unfold extensionList
  cases hfound : fileExtensions a with
  | nil => exact absurd hfound h
  | cons => rfl

theorem eq_of_before_semicolon {word other more rest : List Char}
    (hword : ∀ c ∈ word, Text.isWordChar c = true) (hother : ∀ c ∈ other, Text.isWordChar c = true)
    (h : word ++ ';' :: more = other ++ ';' :: rest) : word = other := by
  have hedge : ∀ cs : List Char, (';' :: cs).head?.any Text.isWordChar = false := by
    intro cs
    show Text.isWordChar ';' = false
    decide
  have htake := congrArg (List.takeWhile Text.isWordChar) h
  rwa [Text.takeWhile_run hword (hedge _), Text.takeWhile_run hother (hedge _)] at htake

theorem extensionList_eq_any_iff {a : Analysis}
    (h : fileExtensions a ⊆ Description.fileExtensions) :
    extensionList a = "any;" ↔ fileExtensions a = [] := by
  constructor
  · intro hany
    by_contra hne
    rw [extensionList_of_ne_nil hne] at hany
    obtain ⟨extension, rest, hfound⟩ := List.exists_cons_of_ne_nil hne
    have hmem : extension ∈ Description.fileExtensions := by
      apply h
      rw [hfound]
      exact List.mem_cons_self
    have htext : extension.toList ++ ';' :: (String.join (rest.map (· ++ ";"))).toList =
        "any".toList ++ [';'] := by
      simpa [hfound] using congrArg String.toList hany
    have hword : ∀ c ∈ "any".toList, Text.isWordChar c = true := by
      rw [← List.all_eq_true]
      decide
    have hsame := eq_of_before_semicolon (Description.word_of_extension hmem).chars hword htext
    rw [String.toList_inj.mp hsame] at hmem
    exact absurd hmem (by decide)
  · intro hnone
    rw [extensionList, hnone]

theorem feed_not_mem_extensionList {v : Vocabulary} {description : String} {a : Analysis}
    (h : Description.analyze v description = .ok a) : '\n' ∉ (extensionList a).toList := by
  by_cases hfound : fileExtensions a = []
  · rw [(extensionList_eq_any_iff (fileExtensions_subset h)).mpr hfound]
    decide
  · intro hmem
    rw [extensionList_of_ne_nil hfound, String.toList_join, List.mem_flatMap] at hmem
    obtain ⟨entry, hentry, hfeed⟩ := hmem
    obtain ⟨extension, hextension, rfl⟩ := List.mem_map.mp hentry
    rw [String.toList_append, List.mem_append] at hfeed
    rcases hfeed with hfeed | hfeed
    · have hword := Description.word_of_extension (fileExtensions_subset h hextension)
      exact absurd (hword.chars _ hfeed) (by decide)
    · exact absurd hfeed (by decide)

theorem feed_not_mem_firstLine (text : String) : '\n' ∉ (firstLine text).toList := by
  rw [firstLine, String.toList_ofList]
  cases hfirst : (Text.lines text.toList).head? with
  | none => exact List.not_mem_nil
  | some line => exact Text.feed_not_mem_lines (List.mem_of_head? hfirst)

theorem feed_not_mem_filename (a : Artifact) : '\n' ∉ a.filename.toList := by
  have hstem : '\n' ∉ a.stem.toList := by
    unfold Artifact.stem
    cases a.analysis.intent.primary <;> decide
  have hextension : '\n' ∉ a.language.extension.toList := by
    cases a.language <;> decide
  have hdot : '\n' ∉ (".").toList := by decide
  simp only [Artifact.filename, String.toList_append, List.mem_append, hstem, hextension, hdot,
    or_self, not_false_iff]

def actionKeys : List String :=
  ["Active", "Name", "Comment", "Exec", "Icon-Name", "Selection", "Extensions", "Quote"]

def actionRows (values : List String) : List (List Char) :=
  "[Nemo Action]".toList ::
    List.zipWith (fun key value => key.toList ++ '=' :: value.toList) actionKeys values

/-- Nine rows with a line feed behind each: the heading, and every key once, in order. -/
def IsActionFile (content : String) : Prop :=
  ∃ (body : List Char) (values : List String), values.length = actionKeys.length ∧
    content.toList = body ++ ['\n'] ∧ Text.rows body = actionRows values

theorem length_actionRows {values : List String} (h : values.length = actionKeys.length) :
    (actionRows values).length = 9 := by
  rw [actionRows, List.length_cons, List.length_zipWith, h]
  rfl

theorem feed_not_mem_zipWith_iff {keys values : List String} (h : values.length = keys.length)
    (hkeys : ∀ key ∈ keys, '\n' ∉ key.toList) :
    (∀ row ∈ List.zipWith (fun key value => key.toList ++ '=' :: value.toList) keys values,
      '\n' ∉ row) ↔ ∀ value ∈ values, '\n' ∉ value.toList := by
  induction values generalizing keys with
  | nil => simp
  | cons value values ih =>
    cases keys with
    | nil => cases h
    | cons key keys =>
      obtain ⟨hkey, hkeys⟩ := List.forall_mem_cons.mp hkeys
      rw [List.zipWith_cons_cons, List.forall_mem_cons, List.forall_mem_cons,
        ih (Nat.succ.inj h) hkeys]
      simp [hkey]

theorem feed_not_mem_actionRows_iff {values : List String}
    (h : values.length = actionKeys.length) :
    (∀ row ∈ actionRows values, '\n' ∉ row) ↔ ∀ value ∈ values, '\n' ∉ value.toList := by
  rw [actionRows, List.forall_mem_cons, feed_not_mem_zipWith_iff h (by decide)]
  exact and_iff_right (by decide)

theorem isActionFile_iff {content : String} {values : List String}
    (h : values.length = actionKeys.length)
    (hcontent : content.toList = List.intercalate ['\n'] (actionRows values) ++ ['\n']) :
    IsActionFile content ↔ ∀ value ∈ values, '\n' ∉ value.toList := by
  rw [← feed_not_mem_actionRows_iff h]
  have hne : actionRows values ≠ [] := List.cons_ne_nil _ _
  have hrows := Text.rows_intercalate hne
  constructor
  · rintro ⟨body, others, hlength, hbody, hothers⟩
    rw [hcontent, List.append_cancel_right_eq] at hbody
    rw [← hbody, hrows] at hothers
    rw [← Text.length_flatMap_rows_eq_iff, hothers, length_actionRows h, length_actionRows hlength]
  · intro hfeeds
    exact ⟨_, values, h, hcontent, by rw [hrows, Text.flatMap_rows_of_not_mem hfeeds]⟩

def actionValues (request : GenerationRequest) (i : Integration) (a : Artifact) : List String :=
  ["true", actionName request i a, firstLine request.description, "<" ++ a.filename ++ " %F>",
    (i.setting? "icon").getD "system-run", "Any", extensionList a.analysis, "double"]

theorem toList_nemoAction (request : GenerationRequest) (i : Integration) (a : Artifact) :
    (nemoAction request i a).toList =
      List.intercalate ['\n'] (actionRows (actionValues request i a)) ++ ['\n'] := by
  simp [nemoAction, actionRows, actionKeys, actionValues, List.intercalate_cons_cons]

theorem exists_before_extensions (request : GenerationRequest) (i : Integration) (a : Artifact) :
    ∃ front, nemoAction request i a =
      front ++ "\nExtensions=" ++ extensionList a.analysis ++ "\nQuote=double\n" := by
  let rows := (actionRows (actionValues request i a)).take 7
  refine ⟨String.ofList (List.intercalate ['\n'] rows), ?_⟩
  apply String.toList_inj.mp
  rw [toList_nemoAction]
  simp [rows, actionRows, actionKeys, actionValues, List.intercalate_cons_cons]

theorem isActionFile_nemoAction_iff (request : GenerationRequest) (i : Integration)
    (a : Artifact) :
    IsActionFile (nemoAction request i a) ↔
      '\n' ∉ (actionName request i a).toList ∧
        '\n' ∉ ((i.setting? "icon").getD "system-run").toList ∧
        '\n' ∉ (extensionList a.analysis).toList := by
  have hlength : (actionValues request i a).length = actionKeys.length := by
    simp only [actionValues, actionKeys, List.length_cons, List.length_nil]
  rw [isActionFile_iff hlength (toList_nemoAction request i a)]
  simp [actionValues, feed_not_mem_firstLine, feed_not_mem_filename]

/-- The file of an enabled integration has nine rows, with every key once and in order, exactly if
its label, its icon and its extensions have no line feeds in them. For the analysis of a description
the extensions never have any. -/
theorem emitted_isActionFile_iff (request : GenerationRequest) (a : Artifact) {i : Integration}
    (hi : i ∈ request.integrations) (henabled : i.enabled = true) (hkind : i.kind = .nemo) :
    let label := actionName request i a
    let icon := (i.setting? "icon").getD "system-run"
    ∃ action script, ofIntegration request a i = [action, script] ∧
      action ∈ build request a ∧ action.filename = a.stem ++ ".nemo_action" ∧
      (IsActionFile action.content ↔ '\n' ∉ label.toList ∧ '\n' ∉ icon.toList ∧
        '\n' ∉ (extensionList a.analysis).toList) ∧
      ∀ v description, Description.analyze v description = .ok a.analysis →
        (IsActionFile action.content ↔ '\n' ∉ label.toList ∧ '\n' ∉ icon.toList) := by
  intro label icon
  have hfiles : ofIntegration request a i = nemo request i a := by
    rw [ofIntegration, hkind]
  have hiff := isActionFile_nemoAction_iff request i a
  refine ⟨_, _, hfiles, ?_, rfl, hiff, fun v description hanalyze => ?_⟩
  · refine List.mem_append_left _ (List.mem_append_left _ (List.mem_flatMap.mpr ⟨i, ?_, ?_⟩))
    · exact List.mem_filter.mpr ⟨hi, henabled⟩
    · rw [hfiles]
      exact List.mem_cons_self
  · rw [hiff, and_iff_left (feed_not_mem_extensionList hanalyze)]

/-- The row of the extensions says that files of any kind will do exactly if no file is named. Else
it lists the extensions in which the names of files end, each once and in the order of the bytes,
with a semicolon behind each, and all of them are known ones. -/
theorem extensionList_of_analyze {v : Vocabulary} {description : String} {a : Artifact}
    (h : Description.analyze v description = .ok a.analysis) :
    let files := a.analysis.entities.filter (·.label = .file)
    let value := extensionList a.analysis
    (∀ request i, i.kind = .nemo → ∃ action script front,
      ofIntegration request a i = [action, script] ∧
        action.content = front ++ "\nExtensions=" ++ value ++ "\nQuote=double\n") ∧
    (value = "any;" ↔ files = []) ∧
    (files ≠ [] → ∃ extensions : List String, extensions ≠ [] ∧
      value = String.join (extensions.map (· ++ ";")) ∧ extensions.Pairwise Text.BytesBefore ∧
      (∀ extension, extension ∈ extensions ↔ ∃ e ∈ files, EndsIn e.text extension) ∧
      (∀ e ∈ files, ∃ extension ∈ extensions, EndsIn e.text extension) ∧
      extensions ⊆ Description.fileExtensions) := by
  intro files value
  have hnone := fileExtensions_eq_nil_iff h
  refine ⟨fun request i hkind => ?_, ?_, fun hfiles => ?_⟩
  · obtain ⟨front, hcontent⟩ := exists_before_extensions request i a
    exact ⟨_, _, front, by rw [ofIntegration, hkind]; rfl, hcontent⟩
  · rw [extensionList_eq_any_iff (fileExtensions_subset h), hnone]
  · have hsome : fileExtensions a.analysis ≠ [] := fun hnil => hfiles (hnone.mp hnil)
    have hascending : (fileExtensions a.analysis).Pairwise (· < ·) :=
      Text.pairwise_ascending _
    refine ⟨_, hsome, extensionList_of_ne_nil hsome, hascending.imp Text.bytesBefore_of_lt,
      fun extension => mem_fileExtensions_iff, fun e he => ?_, fileExtensions_subset h⟩
    obtain ⟨extension, -, hends⟩ := endsIn_of_analyze h he
    exact ⟨extension, mem_fileExtensions_iff.mpr ⟨e, he, hends⟩, hends⟩

def merging : Artifact where
  code := "#!/usr/bin/env bash\n"
  language := .bash
  analysis := Description.analyzeNormal .standard
    (Description.normalizeChars "Merge b.txt, a.csv and c.txt".toList)
  dependencies := []

/-- Three names of files with two extensions. -/
theorem merged_extensions_listed :
    Description.analyze .standard "Merge b.txt, a.csv and c.txt" = .ok merging.analysis ∧
      ∃ extensions : List String, "csv;txt;" = String.join (extensions.map (· ++ ";")) ∧
        extensions.Pairwise Text.BytesBefore ∧ ∀ extension, extension ∈ extensions ↔
          ∃ e ∈ merging.analysis.entities.filter (·.label = .file), EndsIn e.text extension := by
  have hanalyze : Description.analyze .standard "Merge b.txt, a.csv and c.txt" =
      .ok merging.analysis := if_neg (by decide)
  have hvalue : extensionList merging.analysis = "csv;txt;" := by decide +kernel
  obtain ⟨-, hany, hsome⟩ := extensionList_of_analyze hanalyze
  obtain ⟨extensions, -, hlist, hascending, hmem, -⟩ := hsome fun hnone => by
    rw [← hany, hvalue] at hnone
    exact absurd hnone (by decide)
  rw [hvalue] at hlist
  exact ⟨hanalyze, extensions, hlist, hascending, hmem⟩

def resizing : Artifact where
  code := "#!/usr/bin/env bash\n"
  language := .bash
  analysis := Description.analyzeNormal .standard
    (Description.normalizeChars "Resize images".toList)
  dependencies := []

def resizingAction (label : String) : Integration where
  kind := .nemo
  config := some [("name", .string label)]

def resizingRequest (label : String) : GenerationRequest where
  description := "Resize images"
  integrations := [resizingAction label]

/-- A label on one row. -/
theorem plain_label_keeps_rows : ∃ action ∈ build (resizingRequest "Resize") resizing,
    action.filename = resizing.stem ++ ".nemo_action" ∧ IsActionFile action.content := by
  have hanalyze : Description.analyze .standard "Resize images" = .ok resizing.analysis :=
    if_neg (by decide)
  obtain ⟨action, _, -, hmem, hname, -, hiff⟩ :=
    emitted_isActionFile_iff (resizingRequest "Resize") resizing List.mem_cons_self rfl rfl
  exact ⟨action, hmem, hname, (hiff .standard _ hanalyze).mpr (by decide)⟩

/-- A label that brings a key of its own. -/
theorem label_with_feed_breaks_rows :
    ∃ action ∈ build (resizingRequest "Resize\nTerminal=true") resizing,
      action.filename = resizing.stem ++ ".nemo_action" ∧ ¬ IsActionFile action.content := by
  refine ⟨_, List.mem_cons_self, rfl, ?_⟩
  show ¬ IsActionFile (nemoAction _ (resizingAction "Resize\nTerminal=true") resizing)
  rw [isActionFile_nemoAction_iff]
  exact fun h => absurd h.1 (by decide)

end Companion

end Scriptwright
