import Scriptwright.Proofs.Description.FileManager
import Scriptwright.Proofs.Description.NormalForm
import Scriptwright.Proofs.Generation.Draft
import Scriptwright.Proofs.Text.Rows

/-!
Actions in the menu of a file manager. The request for one says what it is for, so whatever the
caller's words are, it is taken for one, and the label comes out in the script and in the file of
the action. The script has the label twice: as a quoted word, and as it is in a comment. A label
with line feeds does not stay in that comment.
-/
namespace Scriptwright

open Description Markup Template

namespace Markup

def Part.isSame : Part → Part → Bool
  | .text a, .text b => a = b
  | .shown name style, .shown name' style' => name = name' && style = style'
  | .banner, .banner => true
  | .colors, .colors => true
  | _, _ => false

theorem Part.eq_of_isSame {p q : Part} (h : p.isSame q = true) : p = q := by
  cases p <;> cases q <;> simp_all [Part.isSame]

/-- What follows the opening, if the parts begin with it. -/
def after? : List Part → List Part → Option (List Part)
  | [], parts => some parts
  | p :: opening, q :: parts => if p.isSame q then after? opening parts else none
  | _ :: _, [] => none

theorem eq_append_of_after? {opening parts rest : List Part}
    (h : after? opening parts = some rest) : parts = opening ++ rest := by
  induction opening generalizing parts with
  | nil => exact Option.some.inj h
  | cons p opening ih =>
    cases parts with
    | nil => cases h
    | cons q parts =>
      rw [after?] at h
      split at h
      · rename_i hsame
        rw [Part.eq_of_isSame hsame, ih h, List.cons_append]
      · cases h

end Markup

def actionOpening : List Part := [
  .text "#!/usr/bin/env bash\n#\n# ".toList, .shown "description" .plain,
  .text "\n# Nemo file manager action: ".toList, .shown "action_name" .plain,
  .text "\n".toList, .banner,
  .text "\n# Dependencies: ".toList, .shown "dependencies" (.joined ", ".toList),
  .text "\n#\n\nset -e\n\n".toList, .colors,
  .text "\n\nACTION_NAME=".toList, .shown "action_name" .shellWord]

def beginsWithFeed : List Part → Bool
  | .text ('\n' :: _) :: _ => true
  | _ => false

theorem exists_of_beginsWithFeed {parts : List Part} (h : beginsWithFeed parts = true) :
    ∃ cs more, parts = .text ('\n' :: cs) :: more := by
  unfold beginsWithFeed at h
  split at h
  · exact ⟨_, _, rfl⟩
  · cases h

set_option maxRecDepth 10000 in
theorem nemoAction_opens :
    (Builtin.Bash.nemoAction.outline?.bind (after? actionOpening)).any beginsWithFeed := by
  rw [outline?_of_source rfl (by repeat constructor)]
  decide +kernel

/-- The comments of the script for an action, up to the names of what it depends on. -/
def actionHeader (label : String) : String :=
  "#!/usr/bin/env bash\n#\n# " ++ IntentCategory.nemoIntegration.tag ++
    "\n# Nemo file manager action: " ++ label ++ "\n" ++ Signature.current.banner ++
    "\n# Dependencies: "

theorem exists_action_text {parts : List Part}
    (hparts : Builtin.Bash.nemoAction.outline? = some parts) {r : Lookup} {label : String}
    {names : List String}
    (hkind : r "description" = some (.string IntentCategory.nemoIntegration.tag))
    (hlabel : r "action_name" = some (.string label))
    (hnames : r "dependencies" = some (.strings names)) {text : List Char}
    (htext : writeAll r parts = some text) :
    ∃ rest : String, String.ofList text = actionHeader label ++ Text.joinWith ", " names ++
      "\n#\n\nset -e\n\n" ++ Script.terminalColors ++ "\n\n" ++ "ACTION_NAME=" ++
      Script.shellQuote label ++ "\n" ++ rest := by
  have hopens := nemoAction_opens
  rw [hparts, Option.bind_some, Option.any_eq_true] at hopens
  obtain ⟨behind, hbehind, hfeed⟩ := hopens
  obtain ⟨first, more, rfl⟩ := exists_of_beginsWithFeed hfeed
  rw [eq_append_of_after? hbehind, writeAll_append] at htext
  obtain ⟨opening, hopening, htext⟩ := Option.bind_eq_some_iff.mp htext
  obtain ⟨ending, hending, htext⟩ := Option.bind_eq_some_iff.mp htext
  obtain ⟨rest, hrest⟩ : ∃ rest, ending = '\n' :: rest := by
    obtain ⟨rest, -, hrest⟩ := Option.bind_eq_some_iff.mp hending
    exact ⟨first ++ rest, (Option.some.inj hrest).symm⟩
  simp only [actionOpening, writeAll, Part.write, hkind, hlabel, hnames, Option.bind_some,
    Style.show?, Value.strings, Value.display, bind, pure, Option.some.injEq] at hopening htext
  refine ⟨String.ofList rest, ?_⟩
  rw [← String.toList_inj, String.toList_ofList, ← htext, ← hopening, hrest]
  have hassignment : "\n\nACTION_NAME=".toList = "\n\n".toList ++ "ACTION_NAME=".toList := by decide
  have hrow : ("\n" : String).toList = ['\n'] := String.toList_ofList
  -- the literals stay as they are, so nothing is spelled out but the two that are cut differently
  unfold actionHeader
  simp only [Text.toList_joinWith, Script.shellQuote, Value.display, Function.comp_def,
    String.toList_append, String.toList_ofList, List.map_map, List.append_assoc, List.append_nil,
    List.cons_append, List.nil_append, hassignment, hrow]

namespace Session

theorem namesFileManager_nemoRequest (description actionName : String) :
    NamesFileManager (normalizeChars (nemoRequest description actionName).description.toList) := by
  have hsplit : (nemoRequest description actionName).description.toList =
      (description ++ " -").toList ++ ' ' ::
        ("Create Nemo file manager".toList ++ ' ' :: ("action \"" ++ actionName ++ "\"").toList) := by
    simp [nemoRequest]
  rw [hsplit]
  exact .inr (.inl (mentions_between _ (by decide) _))

theorem isBlankText_nemoRequest (description actionName : String) :
    Text.isBlankText (nemoRequest description actionName).description.toList = false := by
  have hdash : '-' ∈ (nemoRequest description actionName).description.toList := by
    simp [nemoRequest]
  exact (Text.isBlankText_eq_false_iff _).mpr ⟨'-', hdash, by decide⟩

theorem exists_action_draft {s : Session} (now : Moment) {description actionName : String}
    (he : Engine.ofCatalog Catalog.builtin = .ok s.generator.engine)
    (hlength : (nemoRequest description actionName).description.utf8ByteSize ≤ maxBytes) :
    let request := nemoRequest description actionName
    let a := analyzeNormal s.generator.vocabulary (normalizeChars request.description.toList)
    a.intent.primary = .nemoIntegration ∧
    ∃ (script : RenderedScript) (rest : String),
      s.generator.draft now request = .ok ⟨a, .bash, script⟩ ∧
      script.template = "bash_nemo_action" ∧
      script.code = actionHeader actionName ++ Text.joinWith ", " script.dependencies ++
        "\n#\n\nset -e\n\n" ++ Script.terminalColors ++ "\n\n" ++ "ACTION_NAME=" ++
        Script.shellQuote actionName ++ "\n" ++ rest := by
  intro request a
  have hprimary : a.intent.primary = .nemoIntegration :=
    primary_fileManager _ (namesFileManager_nemoRequest description actionName)
  have hcategory : Builtin.Bash.nemoAction.category = Category.ofIntent a.intent.primary := by
    rw [hprimary]
    rfl
  have hmem : Builtin.Bash.nemoAction ∈ Builtin.all := by simp [Builtin.all]
  have hkinds : Builtin.Bash.nemoAction.WellKinded request.templateOverrides := by
    refine Builtin.wellKinded_of_strings hmem fun name v hv => ?_
    simp only [request, nemoRequest, List.mem_singleton, Prod.mk.injEq] at hv
    obtain ⟨rfl, rfl⟩ := hv
    exact ⟨by decide, _, rfl⟩
  obtain ⟨parts, text, script, hdraft, hparts, hwrite, hcode, hname, hdependencies⟩ :=
    exists_script now he (isBlankText_nemoRequest description actionName) hlength hmem hkinds rfl
      hcategory
  have hkind : (Builtin.Bash.nemoAction.scope now .bash a request.templateOverrides).get?
      "description" = some (.string IntentCategory.nemoIntegration.tag) := by
    have hnone : Entries.get? request.templateOverrides.reverse "description" = none := by
      simp [request, nemoRequest, Entries.get?_cons, Entries.get?_nil]
    have hbound : ("description", false) ∈ Builtin.boundNames Builtin.Bash.nemoAction.category := by
      simp [Builtin.boundNames, Builtin.commonNames]
    rw [get?_scope, if_neg (by decide),
      Builtin.get?_bindings_own (.inl hcategory) hbound (by decide) hnone, Builtin.ownValue,
      hprimary]
  have hlabel : (Builtin.Bash.nemoAction.scope now .bash a request.templateOverrides).get?
      "action_name" = some (.string actionName) := by
    rw [get?_scope, if_neg (by decide), get?_bindings]
    simp [request, nemoRequest, Entries.get?_cons]
  have hnames := get?_scope Builtin.Bash.nemoAction now .bash a request.templateOverrides
    "dependencies"
  rw [if_pos rfl] at hnames
  obtain ⟨rest, hrest⟩ := exists_action_text hparts hkind hlabel hnames hwrite
  refine ⟨hprimary, script, rest, hdraft, hname, ?_⟩
  rw [hcode, hdependencies]
  exact hrest

theorem companions_nemoRequest (description actionName : String) (a : Artifact) :
    Companion.build (nemoRequest description actionName) a =
      Companion.nemo (nemoRequest description actionName) { kind := .nemo } a := by
  simp [Companion.build, nemoRequest, Companion.ofIntegration]

theorem nemoAction_nemoRequest (description actionName : String) (a : Artifact) :
    Companion.nemoAction (nemoRequest description actionName) { kind := .nemo } a =
      "[Nemo Action]\nActive=true\nName=" ++ actionName ++ "\nComment=" ++
        Companion.firstLine (nemoRequest description actionName).description ++ "\nExec=<" ++
        a.filename ++ " %F>\nIcon-Name=system-run\nSelection=Any\nExtensions=" ++
        Companion.extensionList a.analysis ++ "\nQuote=double\n" := by
  have hlabel : Companion.actionName (nemoRequest description actionName) { kind := .nemo } a =
      actionName := by
    simp [Companion.actionName, nemoRequest, Integration.setting?, Entries.get?_cons,
      Value.asString?]
  rw [← String.toList_inj]
  unfold Companion.nemoAction
  rw [hlabel]
  simp [Integration.setting?]

end Session

/-- A request for an action is taken for one whatever the caller's words are. Its script comes from
the template for actions and assigns the quoted label, and the two files that go with it are the
action under that label and the script that it runs. -/
theorem nemoAction_delivers {s : Session}
    (he : Engine.ofCatalog Catalog.builtin = .ok s.generator.engine) (now : Moment)
    (description actionName : String)
    (hlength : (Session.nemoRequest description actionName).description.utf8ByteSize ≤ maxBytes) :
    let request := Session.nemoRequest description actionName
    let r := (s.generateNemoAction now description actionName).1
    ∃ a, analyze s.generator.vocabulary request.description = .ok a ∧
      a.intent.primary = .nemoIntegration ∧ r.metadata.requirements = a.requirements ∧
      r.metadata.templateUsed = "bash_nemo_action" ∧ r.language = .bash ∧
      (∃ before after : String,
        r.code = before ++ "ACTION_NAME=" ++ Script.shellQuote actionName ++ "\n" ++ after) ∧
      ∃ action script, r.companions = [action, script] ∧
        action.filename = "nemo_integration.nemo_action" ∧
        action.content = "[Nemo Action]\nActive=true\nName=" ++ actionName ++ "\nComment=" ++
          Companion.firstLine request.description ++ "\nExec=<" ++ script.filename ++
          " %F>\nIcon-Name=system-run\nSelection=Any\nExtensions=" ++ Companion.extensionList a ++
          "\nQuote=double\n" ∧
        script.content = r.code ∧ script.executable = true := by
  intro request r
  obtain ⟨hprimary, script, rest, hdraft, htemplate, hcode⟩ :=
    Session.exists_action_draft now he hlength
  have hresult : r = _ := Session.generate_of_draft hdraft
  refine ⟨_, if_neg (Nat.not_lt.mpr hlength), hprimary, ?_⟩
  rw [hresult]
  refine ⟨rfl, htemplate, rfl, ⟨_, _, hcode⟩, _, _,
    Session.companions_nemoRequest description actionName _, ?_,
    Session.nemoAction_nemoRequest description actionName _, rfl, rfl⟩
  show IntentCategory.tag (analyzeNormal _ _).intent.primary ++ ".nemo_action" = _
  rw [hprimary]
  decide

/-- An action for images, from a new session. -/
theorem resizing_delivered : ∃ e, Engine.ofCatalog Catalog.builtin = .ok e ∧
    ∃ action script before after,
      ((Session.ofEngine e).generateNemoAction ⟨0, 0⟩ "Shrink" "It's small").1.companions =
        [action, script] ∧
      script.content =
        before ++ "ACTION_NAME=" ++ Script.shellQuote "It's small" ++ "\n" ++ after := by
  obtain ⟨e, he⟩ := Builtin.exists_engine
  obtain ⟨a, -, -, -, -, -, ⟨before, after, hcode⟩, action, script, hfiles, -, -, hcontent, -⟩ :=
    nemoAction_delivers (s := .ofEngine e) he ⟨0, 0⟩ "Shrink" "It's small" (by decide)
  exact ⟨e, he, action, script, before, after, hfiles, hcontent.trans hcode⟩

theorem commented_actionHeader_iff (label : String) {names : String}
    (hnames : '\n' ∉ names.toList) :
    Text.Commented (actionHeader label ++ names).toList ↔
      ∀ row ∈ (Text.rows label.toList).tail, row.head? = some '#' := by
  have hsplit : (actionHeader label ++ names).toList =
      ("#!/usr/bin/env bash\n#\n# ".toList ++ IntentCategory.nemoIntegration.tag.toList) ++ '\n' ::
        (("# Nemo file manager action: ".toList ++ label.toList) ++ '\n' ::
          (Signature.current.banner.toList ++ '\n' ::
            ("# Dependencies: ".toList ++ names.toList))) := by
    have haction : "\n# Nemo file manager action: ".toList =
        '\n' :: "# Nemo file manager action: ".toList := by decide
    have hlast : "\n# Dependencies: ".toList = '\n' :: "# Dependencies: ".toList := by decide
    have hrow : ("\n" : String).toList = ['\n'] := String.toList_ofList
    unfold actionHeader
    simp only [String.toList_append, haction, hlast, hrow, List.append_assoc, List.cons_append,
      List.nil_append]
  have hopening : Text.Commented
      ("#!/usr/bin/env bash\n#\n# ".toList ++ IntentCategory.nemoIntegration.tag.toList) := by
    unfold Text.Commented
    decide
  have hbanner : Text.Commented Signature.current.banner.toList := by
    unfold Text.Commented
    decide
  have hlast : Text.Commented ("# Dependencies: ".toList ++ names.toList) := by
    rw [Text.commented_append_iff (by decide) (by decide), Text.rows_of_not_mem hnames]
    exact fun row h => absurd h List.not_mem_nil
  have hlabel : Text.Commented ("# Nemo file manager action: ".toList ++ label.toList) ↔
      ∀ row ∈ (Text.rows label.toList).tail, row.head? = some '#' :=
    Text.commented_append_iff (by decide) (by decide) label.toList
  rw [hsplit, Text.commented_append_feed, Text.commented_append_feed, Text.commented_append_feed,
    hlabel]
  exact ⟨fun h => h.2.1, fun h => ⟨hopening, h, hbanner, hlast⟩⟩

theorem Session.exists_actionHeader {s : Session}
    (he : Engine.ofCatalog Catalog.builtin = .ok s.generator.engine) (now : Moment)
    (description actionName : String)
    (hlength : (nemoRequest description actionName).description.utf8ByteSize ≤ maxBytes) :
    ∃ names rest : String, '\n' ∉ names.toList ∧
      (s.generateNemoAction now description actionName).1.code =
        actionHeader actionName ++ names ++ "\n" ++ rest := by
  obtain ⟨-, script, rest, hdraft, -, hcode⟩ := exists_action_draft now he hlength
  obtain ⟨behind, hfeed, hbehind⟩ : ∃ behind : String, '\n' ∈ behind.toList ∧
      script.code = actionHeader actionName ++ behind := by
    simp only [String.append_assoc] at hcode
    exact ⟨_, by simp, hcode⟩
  obtain ⟨names, more, hsplit, hnames⟩ := List.eq_append_cons_of_mem hfeed
  refine ⟨String.ofList names, String.ofList more, by simpa using hnames, ?_⟩
  unfold generateNemoAction
  rw [generate_of_draft hdraft]
  show script.code = _
  rw [hbehind, ← String.toList_inj]
  simp [hsplit]

/-- The comments at the beginning of the script, up to what it depends on, stay comments exactly if
every row of the label but the first one is a comment itself. -/
theorem header_commented_iff {s : Session}
    (he : Engine.ofCatalog Catalog.builtin = .ok s.generator.engine) (now : Moment)
    (description actionName : String)
    (hlength : (Session.nemoRequest description actionName).description.utf8ByteSize ≤ maxBytes) :
    ∃ names rest : String, '\n' ∉ names.toList ∧
      (s.generateNemoAction now description actionName).1.code =
        actionHeader actionName ++ names ++ "\n" ++ rest ∧
      (Text.Commented (actionHeader actionName ++ names).toList ↔
        ∀ row ∈ (Text.rows actionName.toList).tail, row.head? = some '#') := by
  obtain ⟨names, rest, hnames, hcode⟩ :=
    Session.exists_actionHeader he now description actionName hlength
  exact ⟨names, rest, hnames, hcode, commented_actionHeader_iff actionName hnames⟩

/-- A label on one row. -/
theorem resizing_commented : ∃ e, Engine.ofCatalog Catalog.builtin = .ok e ∧
    ∃ names rest : String,
      ((Session.ofEngine e).generateNemoAction ⟨0, 0⟩ "Shrink" "$(reboot)").1.code =
        actionHeader "$(reboot)" ++ names ++ "\n" ++ rest ∧
      Text.Commented (actionHeader "$(reboot)" ++ names).toList := by
  obtain ⟨e, he⟩ := Builtin.exists_engine
  obtain ⟨names, rest, -, hcode, hiff⟩ :=
    header_commented_iff (s := .ofEngine e) he ⟨0, 0⟩ "Shrink" "$(reboot)" (by decide)
  exact ⟨e, he, names, rest, hcode, hiff.mpr (by decide)⟩

/-- A label that brings a command of its own. -/
theorem echo_leaves_comments : ∃ e, Engine.ofCatalog Catalog.builtin = .ok e ∧
    ∃ names rest : String, '\n' ∉ names.toList ∧
      ((Session.ofEngine e).generateNemoAction ⟨0, 0⟩ "Show files" "Resize\necho pwned").1.code =
        actionHeader "Resize\necho pwned" ++ names ++ "\n" ++ rest ∧
      ¬ Text.Commented (actionHeader "Resize\necho pwned" ++ names).toList := by
  obtain ⟨e, he⟩ := Builtin.exists_engine
  obtain ⟨names, rest, hnames, hcode⟩ := Session.exists_actionHeader (s := .ofEngine e) he ⟨0, 0⟩
    "Show files" "Resize\necho pwned" (by decide)
  refine ⟨e, he, names, rest, hnames, hcode, ?_⟩
  rw [commented_actionHeader_iff _ hnames]
  decide

end Scriptwright
