import Scriptwright.Proofs.Markup.Names
import Scriptwright.Proofs.Template.Coverage
import Scriptwright.Proofs.Template.Rendering

/-!
The built-in templates and the engine made from them. All of them are of the simple form, and each
can be rendered from values of the right kinds under the names that scripts of its category bind.
-/
namespace Scriptwright.Template.Builtin

open Markup

/-- The names that all scripts bind, and whether to a list. -/
def commonNames : List (String × Bool) :=
  [("description", false), ("complexity", false), ("main_logic", false), ("imports", true),
    ("commands", true), ("dependencies", true)]

def kindNames (category : String) : List (String × Bool) :=
  if category = Category.nemoIntegration then [("action_name", false), ("file_logic", false)]
  else if category = Category.kdeConnect then
    [("original_command", false), ("transformed_logic", false)]
  else if category = Category.gui then [("app_name", false), ("features", true)]
  else []

def boundNames (category : String) : List (String × Bool) := commonNames ++ kindNames category

def allNames : List (String × Bool) :=
  commonNames ++ [("action_name", false), ("file_logic", false), ("original_command", false),
    ("transformed_logic", false), ("app_name", false), ("features", true)]

theorem boundNames_subset (category : String) : boundNames category ⊆ allNames := by
  unfold boundNames allNames
  refine List.append_subset.mpr ⟨List.subset_append_left _ _, fun name hname => ?_⟩
  refine List.mem_append_right _ ?_
  unfold kindNames at hname
  split at hname
  · revert name
    decide
  · split at hname
    · revert name
      decide
    · split at hname
      · revert name
        decide
      · exact absurd hname List.not_mem_nil

abbrev Options := String → Option (List (List Char))

def slot (options : Options) (name : String) (isList : Bool) : Slot :=
  if isList then .texts (options name) else .text (options name)

def slots (options : Options) (category : String) : Slots := fun name =>
  ((boundNames category).lookup name).map (slot options name)

def kinds (category : String) : Slots := slots (fun _ => none) category

theorem isPlain {t : Template} (h : t ∈ all) : t.IsPlain := by
  have hall : all.all fun t => !Markup.markupEndings.any (Text.finishesWith t.name) := by
    decide
  simpa [IsPlain] using List.all_eq_true.mp hall t h

theorem forall_all {P : Template → Prop} (hbasic : P Python.basic) (hgui : P Python.gui)
    (hfile : P Python.fileProcessing) (hweb : P Python.web) (hbash : P Bash.basic)
    (hnemo : P Bash.nemoAction) (hkde : P Bash.kdeConnect) {t : Template} (h : t ∈ all) : P t := by
  simp only [all, List.mem_cons, List.not_mem_nil, or_false] at h
  rcases h with rfl | rfl | rfl | rfl | rfl | rfl | rfl <;> assumption

/-- Read once, each template is found to be of the simple form, to use its names for values of the
right kinds, and never to show the time. -/
theorem body_fits {t : Template} (h : t ∈ all) : (Markup.parse? t.content).any fun body =>
    ((Markup.outline? body).bind (formAll? (kinds t.category))).isSome &&
      !(Markup.nodeNames body).contains "timestamp" := by
  refine forall_all (P := fun t => (Markup.parse? t.content).any fun body =>
    ((Markup.outline? body).bind (formAll? (kinds t.category))).isSome &&
      !(Markup.nodeNames body).contains "timestamp") ?_ ?_ ?_ ?_ ?_ ?_ ?_ h <;>
  · rw [parse?_of_source rfl (by repeat constructor)]
    decide +kernel

theorem kinds_fit {t : Template} (h : t ∈ all) :
    (t.outline?.bind (formAll? (kinds t.category))).isSome := by
  obtain ⟨body, hbody, hfits⟩ := (Option.any_eq_true _ _).mp (body_fits h)
  rw [outline?, hbody]
  exact ((Bool.and_eq_true _ _).mp hfits).1

theorem timestamp_not_mem {t : Template} (h : t ∈ all) {body : List Node}
    (hbody : Markup.parse? t.content = some body) : "timestamp" ∉ Markup.nodeNames body := by
  have hfits := body_fits h
  rw [hbody, Option.any_some, Bool.and_eq_true] at hfits
  simpa using hfits.2

theorem exists_outline {t : Template} (h : t ∈ all) : ∃ parts, t.outline? = some parts := by
  obtain ⟨_, hform⟩ := Option.isSome_iff_exists.mp (kinds_fit h)
  obtain ⟨parts, hparts, _⟩ := Option.bind_eq_some_iff.mp hform
  exact ⟨parts, hparts⟩

/-- What a template declares is among the names that scripts of its category bind, and as a string
or as a list like there. -/
theorem parameters_bound {t : Template} (h : t ∈ all) :
    ∀ v ∈ t.parameters, v.name ≠ "dependencies" ∧
      ((v.name, false) ∈ boundNames t.category ∧ v.kind = .string ∨
        (v.name, true) ∈ boundNames t.category ∧ v.kind = .array) := by
  refine forall_all (P := fun t => ∀ v ∈ t.parameters, v.name ≠ "dependencies" ∧
    ((v.name, false) ∈ boundNames t.category ∧ v.kind = .string ∨
      (v.name, true) ∈ boundNames t.category ∧ v.kind = .array))
    ?_ ?_ ?_ ?_ ?_ ?_ ?_ h <;> decide

def kindValues : Entries :=
  kindBindings .nemoIntegration ++ kindBindings .kdeConnect ++ kindBindings .guiApplication

/-- What a name is bound to where the caller does not want anything else. -/
def ownValue (language : Language) (a : Analysis) (name : String) : Value :=
  match name with
  | "description" => .string a.intent.primary.tag
  | "complexity" => .string a.complexity.tag
  | "main_logic" => .string (mainLogic language a)
  | "imports" => .strings a.requirements.libraries
  | "commands" => .strings a.requirements.systemCommands
  | other => (kindValues.get? other).getD .null

theorem get?_common {name : String} {isList : Bool} (hname : (name, isList) ∈ commonNames)
    (hne : name ≠ "dependencies") (now : Moment) (language : Language) (a : Analysis) :
    Entries.get? (kindBindings a.intent.primary).reverse name = none ∧
      Entries.get? (analysisBindings now language a).reverse name =
        some (ownValue language a name) := by
  simp only [commonNames, List.mem_cons, Prod.mk.injEq, List.not_mem_nil, or_false] at hname
  rcases hname with ⟨rfl, _⟩ | ⟨rfl, _⟩ | ⟨rfl, _⟩ | ⟨rfl, _⟩ | ⟨rfl, _⟩ | ⟨rfl, _⟩
  case inr.inr.inr.inr.inr => exact absurd rfl hne
  all_goals
    constructor
    · cases a.intent.primary <;> simp [kindBindings, Entries.get?_cons, Entries.get?_nil]
    · simp [analysisBindings, ownValue, Entries.get?_cons, IntentCategory.toValue,
        Complexity.toValue]

theorem get?_kind {category name : String} {isList : Bool}
    (hname : (name, isList) ∈ kindNames category) {primary : IntentCategory}
    (h : category = Category.ofIntent primary ∨ category = Category.basic) (language : Language)
    (a : Analysis) :
    Entries.get? (kindBindings primary).reverse name = some (ownValue language a name) := by
  rcases h with rfl | rfl
  · cases primary <;>
    simp only [kindNames, Category.ofIntent, Category.nemoIntegration, Category.kdeConnect,
      Category.gui, Category.fileProcessing, Category.web, Category.basic, String.reduceEq,
      if_true, if_false, List.mem_cons, Prod.mk.injEq, List.not_mem_nil, or_false] at hname
    all_goals
      rcases hname with ⟨rfl, _⟩ | ⟨rfl, _⟩ <;>
      simp [kindBindings, kindValues, ownValue, Entries.get?_cons]
  · exact absurd hname List.not_mem_nil

theorem get?_bindings_own {t : Template} {now : Moment} {language : Language} {a : Analysis}
    (h : t.Suits a) {name : String} {isList : Bool} (hname : (name, isList) ∈ boundNames t.category)
    (hne : name ≠ "dependencies") {overrides : Entries}
    (hover : Entries.get? overrides.reverse name = none) :
    (t.bindings now language a overrides).get? name = some (ownValue language a name) := by
  rw [get?_bindings, hover, Option.none_or]
  rcases List.mem_append.mp hname with hname | hname
  · obtain ⟨hkind, hanalysis⟩ := get?_common hname hne now language a
    rw [hkind, hanalysis]
    rfl
  · rw [get?_kind hname h language a]
    rfl

theorem has_bindings {t : Template} (now : Moment) (language : Language) {a : Analysis}
    (h : t.Suits a) {name : String} {isList : Bool} (hname : (name, isList) ∈ boundNames t.category)
    (hne : name ≠ "dependencies") (overrides : Entries) :
    (t.bindings now language a overrides).has name = true := by
  unfold Entries.has
  cases hover : Entries.get? overrides.reverse name with
  | none =>
    rw [get?_bindings_own h hname hne hover]
    rfl
  | some v =>
    rw [get?_bindings, hover]
    rfl

theorem missingVariables_eq_nil {t : Template} (ht : t ∈ all) {now : Moment}
    {language : Language} {a : Analysis} (h : t.Suits a) (overrides : Entries) :
    t.missingVariables (t.bindings now language a overrides) = [] := by
  unfold missingVariables
  rw [List.map_eq_nil_iff, List.filter_eq_nil_iff]
  intro v hv hmissing
  obtain ⟨hne, hbound⟩ := parameters_bound ht v hv
  have hhas : (t.bindings now language a overrides).has v.name = true := by
    rcases hbound with ⟨hname, _⟩ | ⟨hname, _⟩ <;>
      exact has_bindings now language h hname hne overrides
  simp [hhas] at hmissing

theorem covers (l : Language) : Catalog.builtin.Covers l := by
  cases l
  · exact ⟨Python.basic, (Catalog.mem_builtin _).mpr (by simp [all]), rfl, rfl⟩
  · exact ⟨Bash.basic, (Catalog.mem_builtin _).mpr (by simp [all]), rfl, rfl⟩

theorem select_eq {t : Template} (h : t ∈ all) :
    Catalog.builtin.select t.language t.category = .ok t := by
  obtain ⟨u, hu⟩ := Catalog.exists_select_of_covers (covers t.language) t.category
  obtain ⟨hmem, hlanguage, hcategory⟩ := Catalog.select_spec hu
  have hnodup : (all.map fun t => (t.language, t.category)).Nodup := by decide
  rcases hcategory with hcategory | ⟨_, hnone⟩
  · have hsame : u = t := List.inj_on_of_nodup_map hnodup ((Catalog.mem_builtin u).mp hmem) h
      (Prod.ext hlanguage hcategory)
    rw [hu, hsame]
  · exact absurd rfl (hnone t ((Catalog.mem_builtin t).mpr h) rfl)

theorem mem_of_select {l : Language} {category : String} {t : Template}
    (h : Catalog.builtin.select l category = .ok t) : t ∈ all :=
  (Catalog.mem_builtin t).mp (Catalog.select_spec h).1

theorem exists_engine : ∃ e, Engine.ofCatalog Catalog.builtin = .ok e := by
  refine Engine.exists_ofCatalog ((Catalog.checkCoverage_eq_ok_iff _).mpr covers) fun t ht => ?_
  obtain ⟨parts, hparts⟩ := exists_outline ((Catalog.mem_builtin t).mp ht)
  obtain ⟨body, hbody, _⟩ := Option.bind_eq_some_iff.mp hparts
  exact Option.isSome_of_eq_some hbody

theorem slots_hold {options : Options} {t : Template} {now : Moment} {language : Language}
    {a : Analysis} {overrides : Entries}
    (h : t.Suits a)
    (hown : ∀ name isList, (name, isList) ∈ boundNames t.category → name ≠ "dependencies" →
      Entries.get? overrides.reverse name = none →
      (slot options name isList).Holds (ownValue language a name))
    (hover : ∀ name isList v, (name, isList) ∈ boundNames t.category →
      Entries.get? overrides.reverse name = some v → (slot options name isList).Holds v)
    (hdependencies : ∀ s ∈ t.dependencies (t.bindings now language a overrides),
      Among (options "dependencies") s.toList) :
    (slots options t.category).Hold (t.scope now language a overrides).get? := by
  intro name found hfound
  obtain ⟨isList, hlookup, rfl⟩ := Option.map_eq_some_iff.mp hfound
  obtain ⟨front, rest, hsplit, _⟩ := List.lookup_eq_some_iff.mp hlookup
  have hmem : (name, isList) ∈ boundNames t.category := by simp [hsplit]
  rw [get?_scope]
  by_cases hname : name = "dependencies"
  · subst hname
    have hlist : isList = true := by
      have hfirst : (boundNames t.category).lookup "dependencies" = some true := rfl
      exact (Option.some.inj (hfirst.symm.trans hlookup)).symm
    subst hlist
    exact ⟨_, if_pos rfl, _, rfl, hdependencies⟩
  · rw [if_neg hname]
    cases hvalue : Entries.get? overrides.reverse name with
    | none =>
      rw [get?_bindings_own h hmem hname hvalue]
      exact ⟨_, rfl, hown name isList hmem hname hvalue⟩
    | some v =>
      rw [get?_bindings, hvalue]
      exact ⟨v, rfl, hover name isList v hmem hvalue⟩

theorem ownValue_holds (language : Language) (a : Analysis) {category name : String}
    {isList : Bool} (hname : (name, isList) ∈ boundNames category) (hne : name ≠ "dependencies") :
    (slot (fun _ => none) name isList).Holds (ownValue language a name) := by
  have text : ∀ s : String, (Slot.text none).Holds (.string s) :=
    fun s => ⟨s, rfl, fun _ h => by cases h⟩
  have texts : ∀ ss : List String, (Slot.texts none).Holds (.strings ss) :=
    fun ss => ⟨ss, rfl, fun _ _ _ h => by cases h⟩
  have hall := boundNames_subset category hname
  simp only [allNames, commonNames, List.cons_append, List.nil_append, List.mem_cons,
    Prod.mk.injEq, List.not_mem_nil, or_false] at hall
  rcases hall with ⟨rfl, rfl⟩ | ⟨rfl, rfl⟩ | ⟨rfl, rfl⟩ | ⟨rfl, rfl⟩ | ⟨rfl, rfl⟩ | ⟨rfl, rfl⟩ |
    ⟨rfl, rfl⟩ | ⟨rfl, rfl⟩ | ⟨rfl, rfl⟩ | ⟨rfl, rfl⟩ | ⟨rfl, rfl⟩ | ⟨rfl, rfl⟩
  · exact text _
  · exact text _
  · exact text _
  · exact texts _
  · exact texts _
  · exact absurd rfl hne
  · exact text _
  · exact text _
  · exact text _
  · exact text _
  · exact text _
  · exact texts _

/-- Where a catalog selects a built-in template, it is rendered to a text of the form that its
filled slots give. -/
theorem exists_render_of_mem {c : Catalog} {e : Engine} (he : Engine.ofCatalog c = .ok e)
    {now : Moment} {language : Language} {a : Analysis} {overrides : Entries} {t : Template}
    (hmem : t ∈ all) (ht : c.select language (Category.ofIntent a.intent.primary) = .ok t)
    {slots : Slots} {form : Form} (hform : t.outline?.bind (formAll? slots) = some form)
    (hr : slots.Hold (t.scope now language a overrides).get?) :
    ∃ parts text, t.outline? = some parts ∧ form.Admits text ∧
      writeAll (t.scope now language a overrides).get? parts = some text ∧
      e.render now language a overrides =
        .ok ⟨String.ofList text, t.name, t.dependencies (t.bindings now language a overrides),
          t.lint (String.ofList text)⟩ := by
  obtain ⟨parts, hparts, hform⟩ := Option.bind_eq_some_iff.mp hform
  obtain ⟨text, htext, hadmits⟩ := exists_writeAll parts hr hform
  refine ⟨parts, text, hparts, hadmits, htext, ?_⟩
  rw [Engine.render_eq_ok_iff he ht (isPlain hmem) hparts]
  exact ⟨missingVariables_eq_nil hmem (suits_of_select ht) overrides, text, htext, rfl⟩

theorem exists_render {e : Engine} (he : Engine.ofCatalog Catalog.builtin = .ok e)
    {now : Moment} {language : Language} {a : Analysis} {overrides : Entries} {t : Template}
    (ht : Catalog.builtin.select language (Category.ofIntent a.intent.primary) = .ok t)
    {slots : Slots} {form : Form} (hform : t.outline?.bind (formAll? slots) = some form)
    (hr : slots.Hold (t.scope now language a overrides).get?) :
    ∃ parts text, t.outline? = some parts ∧ form.Admits text ∧
      writeAll (t.scope now language a overrides).get? parts = some text ∧
      e.render now language a overrides =
        .ok ⟨String.ofList text, t.name, t.dependencies (t.bindings now language a overrides),
          t.lint (String.ofList text)⟩ :=
  exists_render_of_mem he (mem_of_select ht) ht hform hr

end Scriptwright.Template.Builtin
