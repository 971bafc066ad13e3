import Scriptwright.Proofs.Template.Coverage
import Scriptwright.Proofs.Template.Rendering

/-!
Required variables without a value. What an engine reports missing is what nobody has given a value
for by then. The list of dependencies comes later, so a template that requires it and gives it no
default is refused, although it would have been rendered with one.
-/
namespace Scriptwright

namespace Entries

variable (entries additions : Entries) (key : String)

theorem has_iff : entries.has key = true ↔ key ∈ entries.keys := isSome_get?_iff entries key

@[simp] theorem mem_keys_set (k : String) (v : Value) :
    key ∈ (entries.set k v).keys ↔ key = k ∨ key ∈ entries.keys := by
  rw [keys_set]
  split <;> simp_all [or_comm]

@[simp] theorem mem_keys_setAll :
    key ∈ (entries.setAll additions).keys ↔ key ∈ entries.keys ∨ key ∈ additions.keys := by
  induction additions generalizing entries with
  | nil => simp [setAll, keys]
  | cons addition additions ih =>
    have hstep : entries.setAll (addition :: additions) =
        (entries.set addition.1 addition.2).setAll additions := rfl
    have hkeys : Entries.keys (addition :: additions) = addition.1 :: Entries.keys additions := rfl
    rw [hstep, ih, hkeys]
    simp [or_assoc, or_left_comm]

end Entries

namespace Template

variable (t : Template) (now : Moment) (language : Language) (a : Analysis) (overrides : Entries)

def analysisNames : List String :=
  ["timestamp", "description", "complexity", "imports", "commands", "main_logic"]

/-- The names that have values before the dependencies are known. -/
def givenNames : List String :=
  t.defaults.keys ++ analysisNames ++ (kindBindings a.intent.primary).keys ++ overrides.keys

theorem mem_keys_bindings (name : String) :
    name ∈ (t.bindings now language a overrides).keys ↔ name ∈ t.givenNames a overrides := by
  have hempty : Entries.keys [] = [] := rfl
  have hanalysis : Entries.keys (analysisBindings now language a) = analysisNames := rfl
  simp [bindings, givenNames, hanalysis, hempty, or_assoc]

theorem mem_keys_scope (name : String) :
    name ∈ (t.scope now language a overrides).keys ↔
      name = "dependencies" ∨ name ∈ t.givenNames a overrides := by
  rw [scope, Entries.mem_keys_set, mem_keys_bindings]

/-- Required variables, in the order of their declaration, that are not among these names. -/
def requiredOutside (names : List String) : List String :=
  (t.parameters.filter fun v => v.required && !names.contains v.name).map (·.name)

variable {t}

theorem requiredOutside_congr {names names' : List String}
    (h : ∀ name, name ∈ names ↔ name ∈ names') :
    t.requiredOutside names = t.requiredOutside names' := by
  have hcontains : ∀ name, names.contains name = names'.contains name := by
    intro name
    rw [Bool.eq_iff_iff, List.contains_iff_mem, List.contains_iff_mem, h]
  simp only [requiredOutside, hcontains]

theorem missingVariables_eq_requiredOutside (bindings : Entries) :
    t.missingVariables bindings = t.requiredOutside bindings.keys := by
  have hhas : ∀ name, bindings.has name = bindings.keys.contains name := by
    intro name
    rw [Bool.eq_iff_iff, List.contains_iff_mem, Entries.has_iff]
  simp only [missingVariables, requiredOutside, hhas]

theorem mem_requiredOutside {names : List String} {name : String} :
    name ∈ t.requiredOutside names ↔
      (∃ v ∈ t.parameters, v.required = true ∧ v.name = name) ∧ name ∉ names := by
  simp only [requiredOutside, List.mem_map, List.mem_filter, Bool.and_eq_true, Bool.not_eq_true',
    ← Bool.not_eq_true, List.contains_iff_mem]
  constructor
  · rintro ⟨v, ⟨hv, hrequired, hname⟩, rfl⟩
    exact ⟨⟨v, hv, hrequired, rfl⟩, hname⟩
  · rintro ⟨⟨v, hv, hrequired, rfl⟩, hname⟩
    exact ⟨v, ⟨hv, hrequired, hname⟩, rfl⟩

/-- One more name makes a difference exactly if it is one of those that are missing. -/
theorem requiredOutside_cons_eq_iff {name : String} {names : List String} :
    t.requiredOutside (name :: names) = t.requiredOutside names ↔
      name ∉ t.requiredOutside names := by
  constructor
  · intro h hmem
    rw [← h, mem_requiredOutside] at hmem
    exact hmem.2 List.mem_cons_self
  · intro h
    unfold requiredOutside
    congr 1
    apply List.filter_congr
    intro v hv
    by_cases hrequired : v.required = true
    · -- a required variable of this name is not missing, so the name is among the others anyway
      have hname : v.name = name → name ∈ names := by
        rintro rfl
        rw [mem_requiredOutside, not_and_not_right] at h
        exact h ⟨v, hv, hrequired, rfl⟩
      have hcontains : (name :: names).contains v.name = names.contains v.name := by
        rw [Bool.eq_iff_iff, List.contains_iff_mem, List.contains_iff_mem, List.mem_cons]
        exact ⟨fun hor => hor.elim (fun heq => heq ▸ hname heq) id, .inr⟩
      rw [hcontains]
    · simp [hrequired]

variable (t)

/-- The template requires the dependencies, and neither a default nor the caller gives them. -/
def AwaitsDependencies : Prop :=
  (∃ v ∈ t.parameters, v.required = true ∧ v.name = "dependencies") ∧
    "dependencies" ∉ t.defaults.keys ∧ "dependencies" ∉ overrides.keys

theorem awaitsDependencies_iff :
    t.AwaitsDependencies overrides ↔
      "dependencies" ∈ t.requiredOutside (t.givenNames a overrides) := by
  have hanalysis : "dependencies" ∉ analysisNames := by decide
  have hkind : "dependencies" ∉ (kindBindings a.intent.primary).keys := by
    cases a.intent.primary <;> decide
  simp [AwaitsDependencies, mem_requiredOutside, givenNames, hanalysis, hkind]

end Template

namespace Engine

variable {R : Renderer} {e : Engine R} {now : Moment} {language : Language} {a : Analysis}
  {overrides : Entries} {outside : R.Outside} {t : Template} {name : String} {names : List String}

theorem renderTemplate_ne_missing (bindings : Entries) :
    e.renderTemplate t bindings outside ≠ .error (.missingVariables name names) := by
  unfold renderTemplate
  cases R.render outside e.store t.name bindings <;> simp [Except.mapError]

theorem select_ne_missing {primary : IntentCategory} :
    e.select language primary ≠ .error (.missingVariables name names) := by
  unfold select Catalog.select
  split
  · simp
  · split <;> simp

theorem render_of_select (h : e.select language a.intent.primary = .ok t) :
    e.render now language a overrides outside =
      if t.requiredOutside (t.givenNames a overrides) = [] then
        (e.renderTemplate t (t.scope now language a overrides) outside).map fun code =>
          ⟨code, t.name, t.dependencies (t.bindings now language a overrides), t.lint code⟩
      else .error (.missingVariables t.name (t.requiredOutside (t.givenNames a overrides))) := by
  have hmissing : t.missingVariables (t.bindings now language a overrides) =
      t.requiredOutside (t.givenNames a overrides) := by
    rw [Template.missingVariables_eq_requiredOutside]
    exact Template.requiredOutside_congr (t.mem_keys_bindings now language a overrides)
  unfold render
  simp only [h, bind, Except.bind, hmissing]
  split
  · rename_i hnil
    rw [if_pos hnil]
    unfold Template.scope
    cases e.renderTemplate t _ outside <;> rfl
  · rename_i hne
    rw [if_neg hne]
    rfl

theorem render_eq_missing_iff (h : e.select language a.intent.primary = .ok t) :
    e.render now language a overrides outside = .error (.missingVariables name names) ↔
      name = t.name ∧ names ≠ [] ∧ names = t.requiredOutside (t.givenNames a overrides) := by
  rw [render_of_select h]
  split
  · rename_i hnil
    constructor
    · intro hrender
      cases hcode : e.renderTemplate t (t.scope now language a overrides) outside with
      | ok code => simp [hcode, Except.map] at hrender
      | error cause =>
        simp only [hcode, Except.map, Except.error.injEq] at hrender
        exact absurd (hrender ▸ hcode) (renderTemplate_ne_missing _)
    · rintro ⟨-, hne, heq⟩
      exact absurd (heq.trans hnil) hne
  · rename_i hne
    simp only [Except.error.injEq, GenerationError.missingVariables.injEq]
    constructor
    · rintro ⟨rfl, rfl⟩
      exact ⟨rfl, hne, rfl⟩
    · rintro ⟨rfl, -, rfl⟩
      exact ⟨rfl, rfl⟩

variable (e now language a overrides outside)

/-- An engine reports missing variables exactly if the template for the analysis requires names
that nothing gives a value, and it reports these. With a template that has been found, they are the
required names that stay without a value exactly as long as the template does not await the
dependencies. -/
theorem missing_reported_iff :
    (∀ name names,
      e.render now language a overrides outside = .error (.missingVariables name names) ↔
      ∃ t, e.select language a.intent.primary = .ok t ∧ name = t.name ∧ names ≠ [] ∧
        names = t.requiredOutside (t.givenNames a overrides)) ∧
    ∀ t, e.select language a.intent.primary = .ok t →
      (∀ name, (t.scope now language a overrides).has name = true ↔
        name = "dependencies" ∨ name ∈ t.givenNames a overrides) ∧
      ((∀ name names,
        e.render now language a overrides outside = .error (.missingVariables name names) ↔
        name = t.name ∧ names ≠ [] ∧
          names = t.requiredOutside (t.scope now language a overrides).keys) ↔
        ¬ t.AwaitsDependencies overrides) := by
  refine ⟨fun name names => ?_, fun t ht => ⟨fun name => ?_, ?_⟩⟩
  · cases hselect : e.select language a.intent.primary with
    | ok t => simp [render_eq_missing_iff hselect]
    | error cause =>
      have hrender : e.render now language a overrides outside = .error cause := by
        simp [render, hselect, bind, Except.bind]
      have hcause : cause ≠ .missingVariables name names := by
        rintro rfl
        exact select_ne_missing hselect
      simp [hrender, hcause]
  · rw [Entries.has_iff, Template.mem_keys_scope]
  · have hscope : t.requiredOutside (t.scope now language a overrides).keys =
        t.requiredOutside ("dependencies" :: t.givenNames a overrides) := by
      apply Template.requiredOutside_congr
      intro name
      rw [Template.mem_keys_scope, List.mem_cons]
    rw [Template.awaitsDependencies_iff t a, ← Template.requiredOutside_cons_eq_iff, hscope]
    simp only [render_eq_missing_iff ht]
    generalize t.requiredOutside (t.givenNames a overrides) = reported
    generalize t.requiredOutside ("dependencies" :: t.givenNames a overrides) = unbound
    constructor
    · -- an error for either list of names would be one for the other list
      intro h
      have hreported := h t.name reported
      have hunbound := h t.name unbound
      by_cases hnil : reported = []
      · by_contra hne
        have hsome : unbound ≠ [] := fun heq => hne (heq.trans hnil.symm)
        exact hne (hunbound.mpr ⟨rfl, hsome, rfl⟩).2.2
      · exact (hreported.mp ⟨rfl, hnil, rfl⟩).2.2.symm
    · rintro rfl name names
      rfl

def asking (parameters : List Template.Variable) : Template :=
  { greeting "two" .bash Category.basic with
    content := Template.Builtin.source
      ["# Dependencies: \x7b\x7b dependencies | join(sep=\", \") \x7d\x7d", "echo hi"]
    parameters := parameters
    requirements := ["curl"] }

def askingParts : List Markup.Part :=
  [.text "# Dependencies: ".toList, .shown "dependencies" (.joined [',', ' ']),
    .text "\necho hi\n".toList]

theorem outline?_asking (parameters : List Template.Variable) :
    (asking parameters).outline? = some askingParts := by
  rw [Template.outline?_of_source rfl (by repeat constructor)]
  rfl

def askingCatalog (parameters : List Template.Variable) : Catalog :=
  Catalog.empty.insertAll [greeting "one" .python Category.basic, asking parameters]

theorem askingCatalog_templates (parameters : List Template.Variable) :
    (askingCatalog parameters).templates =
      [greeting "one" .python Category.basic, asking parameters] := by
  have hlt : ¬ (asking parameters).name < (greeting "one" .python Category.basic).name := by
    change ¬ "two" < "one"
    decide
  have hne : (asking parameters).name ≠ (greeting "one" .python Category.basic).name := by
    change "two" ≠ "one"
    decide
  change Template.place (asking parameters) [greeting "one" .python Category.basic] = _
  rw [Template.place, if_neg hlt, if_neg hne, Template.place]

def plainAnalysis : Analysis where
  intent := ⟨.generalScripting, [], [], []⟩
  entities := []
  complexity := .simple
  confidence := 0.5
  suggestedLanguage := .bash
  requirements := {}

theorem exists_asking_engine (parameters : List Template.Variable) :
    ∃ e, ofCatalog (askingCatalog parameters) = .ok e ∧
      e.select .bash plainAnalysis.intent.primary = .ok (asking parameters) := by
  have hcovers : ∀ l, (askingCatalog parameters).Covers l := by
    intro l
    unfold Catalog.Covers
    rw [askingCatalog_templates]
    cases l <;> simp [Template.IsBasicOf, greeting, asking]
  have hparse : ∀ t ∈ (askingCatalog parameters).templates, (Markup.parse? t.content).isSome := by
    intro t ht
    rw [askingCatalog_templates] at ht
    rcases List.mem_cons.mp ht with rfl | ht
    · exact parse?_greeting
    · rw [List.mem_singleton.mp ht]
      obtain ⟨body, hbody, -⟩ := Option.bind_eq_some_iff.mp (outline?_asking parameters)
      exact Option.isSome_of_eq_some hbody
  obtain ⟨e, he⟩ := exists_ofCatalog ((Catalog.checkCoverage_eq_ok_iff _).mpr hcovers) hparse
  refine ⟨e, he, ?_⟩
  have hfind : (askingCatalog parameters).find? .bash Category.basic = some (asking parameters) := by
    rw [Catalog.find?, askingCatalog_templates]
    simp [greeting, asking]
  rw [select, (ofCatalog_spec he).2.1]
  change (askingCatalog parameters).select .bash Category.basic = _
  rw [Catalog.select, hfind]

/-- Nothing but the list of dependencies is asked for. -/
def dependenciesOnly : List Template.Variable := [.needed "dependencies" .array ""]

/-- The only variable that is reported missing is bound to a list, and with it the template could
have been rendered. -/
theorem dependencies_reported_missing :
    ∃ e, ofCatalog (askingCatalog dependenciesOnly) = .ok e ∧
      e.select .bash plainAnalysis.intent.primary = .ok (asking dependenciesOnly) ∧
      e.render ⟨0, 0⟩ .bash plainAnalysis [] = .error (.missingVariables "two" ["dependencies"]) ∧
      ((asking dependenciesOnly).scope ⟨0, 0⟩ .bash plainAnalysis []).get? "dependencies" =
        some (.strings ["curl"]) ∧
      ∃ code, e.renderTemplate (asking dependenciesOnly)
        ((asking dependenciesOnly).scope ⟨0, 0⟩ .bash plainAnalysis []) = .ok code := by
  obtain ⟨e, he, hselect⟩ := exists_asking_engine dependenciesOnly
  have hbound : ((asking dependenciesOnly).scope ⟨0, 0⟩ .bash plainAnalysis []).get?
      "dependencies" = some (.strings ["curl"]) := by
    rw [Template.get?_scope]
    rfl
  refine ⟨e, he, hselect, ?_, hbound, ?_⟩
  · rw [render_eq_missing_iff hselect]
    decide
  · have hmem : asking dependenciesOnly ∈ (askingCatalog dependenciesOnly).templates := by
      simp [askingCatalog_templates]
    have hplain : (asking dependenciesOnly).IsPlain := by
      unfold Template.IsPlain
      decide
    have hwrite := renderTemplate_toOption he hmem hplain (outline?_asking dependenciesOnly)
      ((asking dependenciesOnly).scope ⟨0, 0⟩ .bash plainAnalysis [])
    cases hcode : e.renderTemplate (asking dependenciesOnly)
        ((asking dependenciesOnly).scope ⟨0, 0⟩ .bash plainAnalysis []) with
    | ok code => exact ⟨code, rfl⟩
    | error cause =>
      rw [hcode] at hwrite
      simp [askingParts, Markup.writeAll, Markup.Part.write, hbound, Markup.Style.show?,
        Value.strings, Except.toOption] at hwrite

/-- Some names are required twice or have values, and one has a default. -/
def mixedVariables : List Template.Variable :=
  [.needed "endpoint" .string "", .withDefault "limit" .string (.string "1") "",
    .needed "limit" .string "", .needed "description" .string "", .needed "token" .string "",
    .needed "endpoint" .string ""]

theorem mixedVariables_reported :
    ∃ e, ofCatalog (askingCatalog mixedVariables) = .ok e ∧
      (∀ name, ((asking mixedVariables).scope ⟨0, 0⟩ .bash plainAnalysis
          [("token", .null)]).has name = true ↔
        name = "dependencies" ∨
          name ∈ (asking mixedVariables).givenNames plainAnalysis [("token", .null)]) ∧
      e.render ⟨0, 0⟩ .bash plainAnalysis [("token", .null)] =
        .error (.missingVariables "two" ["endpoint", "endpoint"]) := by
  obtain ⟨e, he, hselect⟩ := exists_asking_engine mixedVariables
  obtain ⟨hreported, hfound⟩ :=
    missing_reported_iff e ⟨0, 0⟩ .bash plainAnalysis [("token", .null)] ()
  refine ⟨e, he, (hfound _ hselect).1, (hreported _ _).mpr ⟨_, hselect, rfl, by decide, ?_⟩⟩
  decide

end Engine

end Scriptwright
