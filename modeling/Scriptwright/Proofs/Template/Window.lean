import Scriptwright.Proofs.Script.StringLiteral
import Scriptwright.Proofs.Template.WellKinded

/-!
Scripts that open a window. The features that such a script shows stand in a list display on a line
of its own, and what is read there are the texts that the script was made from.
-/
namespace Scriptwright.Template

open Markup

def featuresStart : String := "\n\x7d\n\nFEATURES = "

def featuresEnd : String := "\n\n\nclass "

def featureItem : List Part := [.shown "feature" .literal, .text [',', ' ']]

def listsFeatures : List Part → Bool
  | .text a :: .each item container [.shown name style, .text sep] :: .text b :: _ =>
    item = "feature" && container = "features" && name = "feature" && style = .literal &&
      sep = [',', ' '] && (featuresStart.toList ++ ['[']).isSuffixOf a &&
      (']' :: featuresEnd.toList).isPrefixOf b
  | _ => false

theorem exists_of_listsFeatures {parts : List Part} (h : listsFeatures parts = true) :
    ∃ a b rest, parts = .text (a ++ (featuresStart.toList ++ ['['])) ::
      .each "feature" "features" featureItem :: .text (']' :: featuresEnd.toList ++ b) :: rest := by
  unfold listsFeatures at h
  split at h
  · simp only [Bool.and_eq_true, decide_eq_true_eq, List.isSuffixOf_iff_suffix,
      List.isPrefixOf_iff_prefix] at h
    obtain ⟨⟨⟨⟨⟨⟨rfl, rfl⟩, rfl⟩, rfl⟩, rfl⟩, a, rfl⟩, b, rfl⟩ := h
    exact ⟨a, b, _, rfl⟩
  · cases h

set_option maxRecDepth 10000 in
theorem gui_listsFeatures :
    Builtin.Python.gui.outline?.any fun parts => parts.tails.any listsFeatures := by
  rw [outline?_of_source rfl (by repeat constructor)]
  decide +kernel

theorem write_features {r : Lookup} {features : List String}
    (h : r "features" = some (.strings features)) :
    (Part.each "feature" "features" featureItem).write r =
      some (features.flatMap Script.itemChars) := by
  have hturn : ∀ s : String, writeAll (r.turn "feature" (.string s)) featureItem =
      some (Script.itemChars s) := by
    intro s
    simp [featureItem, writeAll, Part.write, Lookup.turn, Style.show?, Script.itemChars]
  have hturns : (features.map Value.string).mapM
      (fun v => writeAll (r.turn "feature" v) featureItem) =
        some (features.map Script.itemChars) := by
    rw [List.mapM_map]
    simp only [Function.comp_def, hturn]
    exact List.mapM_pure
  rw [Part.write, h]
  simp only [Value.strings, items?, Option.bind_eq_bind, Option.bind_some, hturns]
  rw [List.flatMap_def]
  rfl

theorem writeAll_cons {r : Lookup} {part : Part} {text : List Char}
    (h : part.write r = some text) (parts : List Part) :
    writeAll r (part :: parts) = (writeAll r parts).map (text ++ ·) := by
  rw [writeAll, h]
  cases writeAll r parts <;> rfl

theorem exists_display {parts : List Part} (hparts : parts.tails.any listsFeatures = true)
    {r : Lookup} {features : List String} (h : r "features" = some (.strings features))
    {text : List Char} (htext : writeAll r parts = some text) :
    ∃ before after, text = before ++ (featuresStart.toList ++ Script.displayChars features) ++
      (featuresEnd.toList ++ after) := by
  obtain ⟨behind, hbehind, hlists⟩ := List.any_eq_true.mp hparts
  obtain ⟨front, rfl⟩ := (List.mem_tails _ _).mp hbehind
  obtain ⟨a, b, rest, rfl⟩ := exists_of_listsFeatures hlists
  rw [writeAll_append, writeAll_cons rfl, writeAll_cons (write_features h),
    writeAll_cons rfl] at htext
  obtain ⟨first, -, htext⟩ := Option.bind_eq_some_iff.mp htext
  simp only [Option.map_map, Option.bind_eq_bind, Option.bind_map] at htext
  obtain ⟨last, -, htext⟩ := Option.bind_eq_some_iff.mp htext
  obtain rfl := Option.some.inj htext
  exact ⟨first ++ a, b ++ last, by simp [Script.displayChars]⟩

theorem code_displays {c : Catalog} {e : Engine} (he : Engine.ofCatalog c = .ok e)
    {now : Moment} {a : Analysis}
    (ht : c.select .python (Category.ofIntent a.intent.primary) = .ok Builtin.Python.gui)
    {overrides : Entries} {features : List String}
    (hfeatures : (Builtin.Python.gui.bindings now .python a overrides).get? "features" =
      some (.strings features))
    {r : RenderedScript} (hr : e.render now .python a overrides = .ok r) :
    ∃ before display after, r.code = before ++ featuresStart ++ display ++ featuresEnd ++ after ∧
      Script.IsOneLine display.toList ∧ Script.displayedTexts? display = some features := by
  have hmem : Builtin.Python.gui ∈ Builtin.all := by simp [Builtin.all]
  obtain ⟨parts, hparts, hlists⟩ := (Option.any_eq_true _ _).mp gui_listsFeatures
  obtain ⟨-, text, htext, rfl⟩ :=
    (Engine.render_eq_ok_iff he ht (Builtin.isPlain hmem) hparts).mp hr
  have hscope : (Builtin.Python.gui.scope now .python a overrides).get? "features" =
      some (.strings features) := by
    rw [get?_scope, if_neg (by decide), hfeatures]
  obtain ⟨before, after, heq⟩ := exists_display hlists hscope htext
  refine ⟨String.ofList before, String.ofList (Script.displayChars features),
    String.ofList after, ?_, ?_, Script.displayedTexts?_displayChars features⟩
  · rw [← String.toList_inj, String.toList_ofList, heq]
    simp only [String.toList_append, String.toList_ofList, List.append_assoc]
  · rw [String.toList_ofList]
    exact Script.isOneLine_displayChars features

/-- Every text has a literal on one line that is read as that text. With a script that opens a
window, whatever texts are bound as its features are read in its list of features. Bindings of the
declared kinds do give a script. -/
theorem features_read_back :
    (∀ (text : String) (given : Arguments), ∃ filter literal body,
      filter? "py_string" = some filter ∧ filter (.string text) given = .ok (.string literal) ∧
      literal.toList = '"' :: body ++ ['"'] ∧ Script.IsOneLine literal.toList ∧
      Script.literalText? literal = some text) ∧
    ∀ (c : Catalog) (e : Engine) (now : Moment) (a : Analysis) (overrides : Entries)
      (features : List String), Engine.ofCatalog c = .ok e →
      c.select .python (Category.ofIntent a.intent.primary) = .ok Builtin.Python.gui →
      (Builtin.Python.gui.bindings now .python a overrides).get? "features" =
        some (.strings features) →
      (∀ r, e.render now .python a overrides = .ok r → ∃ before display after,
        r.code = before ++ featuresStart ++ display ++ featuresEnd ++ after ∧
        Script.IsOneLine display.toList ∧ Script.displayedTexts? display = some features) ∧
      (Builtin.Python.gui.WellKinded overrides →
        ∃ r, e.render now .python a overrides = .ok r ∧ r.template = "python_gui") := by
  refine ⟨Script.exists_literal, ?_⟩
  intro c e now a overrides features he ht hfeatures
  refine ⟨fun _ hr => code_displays he ht hfeatures hr, fun hkinds => ?_⟩
  have hmem : Builtin.Python.gui ∈ Builtin.all := by simp [Builtin.all]
  obtain ⟨_, text, -, -, hrender⟩ := Builtin.exists_render_of_wellKinded he hmem ht hkinds now
  exact ⟨_, hrender, rfl⟩

/-- Features with quotes, a backslash and characters that do not show. -/
def awkwardFeatures : List String := ["say \"hi\"", "", "], [", "\\", "\x01\n\x7f"]

theorem awkwardFeatures_read_back : ∃ e, Engine.ofCatalog Catalog.builtin = .ok e ∧
    ∃ r before display after,
      e.render ⟨0, 0⟩ .python windowAnalysis [("features", .strings awkwardFeatures)] = .ok r ∧
      r.template = "python_gui" ∧
      r.code = before ++ featuresStart ++ display ++ featuresEnd ++ after ∧
      Script.displayedTexts? display = some awkwardFeatures := by
  obtain ⟨e, he⟩ := Builtin.exists_engine
  have ht : Catalog.builtin.select .python (Category.ofIntent windowAnalysis.intent.primary) =
      .ok Builtin.Python.gui :=
    Builtin.select_eq (t := Builtin.Python.gui) (by simp [Builtin.all])
  have hkinds : Builtin.Python.gui.WellKinded [("features", .strings awkwardFeatures)] := by
    intro v hv value hvalue
    simp only [List.mem_singleton, Prod.mk.injEq] at hvalue
    simp only [Builtin.Python.gui, List.mem_cons, List.not_mem_nil, or_false] at hv
    rcases hv with rfl | rfl | rfl | rfl | rfl <;>
      simp [Builtin.descriptionVariable, Builtin.importsVariable, Builtin.mainLogicVariable,
        Variable.needed, Variable.withDefault] at hvalue
    exact ⟨_, hvalue⟩
  have hfeatures : (Builtin.Python.gui.bindings ⟨0, 0⟩ .python windowAnalysis
      [("features", .strings awkwardFeatures)]).get? "features" =
        some (.strings awkwardFeatures) := by
    rw [get?_bindings]
    rfl
  obtain ⟨hcode, hrender⟩ := features_read_back.2 _ e ⟨0, 0⟩ _ _ _ he ht hfeatures
  obtain ⟨r, hr, htemplate⟩ := hrender hkinds
  obtain ⟨before, display, after, heq, -, hread⟩ := hcode r hr
  exact ⟨e, he, r, before, display, after, hr, htemplate, heq, hread⟩

end Scriptwright.Template
