import Scriptwright.Proofs.Markup.Rendering
import Scriptwright.Proofs.Markup.Slot
import Scriptwright.Proofs.Template.Compiled
import Scriptwright.Template.Bindings

/-!
Scripts as texts that templates write. With a template of the simple form, an engine makes a script
exactly when no required variable is missing and the values fit the parts of the template.
-/
namespace Scriptwright

namespace Entries

theorem get?_append (xs ys : Entries) (key : String) :
    Entries.get? (xs ++ ys) key = (xs.get? key).or (ys.get? key) :=
  List.lookup_append

theorem get?_setAll (entries additions : Entries) (key : String) :
    (entries.setAll additions).get? key =
      (Entries.get? additions.reverse key).or (entries.get? key) := by
  induction additions generalizing entries with
  | nil => simp [setAll, get?_nil]
  | cons addition additions ih =>
    obtain ⟨k, v⟩ := addition
    rw [show entries.setAll ((k, v) :: additions) = (entries.set k v).setAll additions from rfl,
      ih, get?_set, List.reverse_cons, get?_append, get?_cons, get?_nil]
    by_cases h : key = k <;> simp [h]

theorem get?_reverse_eq_none {entries : Entries} {key : String} (h : entries.has key = false) :
    Entries.get? entries.reverse key = none := by
  have hkey : key ∉ entries.keys := by
    rw [← isSome_get?_iff]
    simpa [has] using h
  have hreverse : key ∉ Entries.keys entries.reverse := by
    simpa [keys] using hkey
  rw [← isSome_get?_iff] at hreverse
  simpa using hreverse

end Entries

namespace Template

theorem boundStrings_of_get? {bindings : Entries} {name : String} {ss : List String}
    (h : bindings.get? name = some (.strings ss)) : boundStrings bindings name = ss := by
  simp only [boundStrings, h, Value.strings, List.filterMap_map]
  exact List.filterMap_some

theorem dependencies_eq (t : Template) (bindings : Entries) :
    t.dependencies bindings = (t.requirements ++ boundStrings bindings "imports" ++
      boundStrings bindings "commands").eraseDups :=
  distinct_eq_eraseDups _

/-- The parts of the template, if it is of the simple form. -/
def outline? (t : Template) : Option (List Markup.Part) :=
  (Markup.parse? t.content).bind Markup.outline?

theorem parse?_of_source {t : Template} {lines : List String} {spelled : List (List Char)}
    (hcontent : t.content = Builtin.source lines) (h : SpellsAll lines spelled) :
    Markup.parse? t.content = Markup.parseChars? (spelled.flatMap (· ++ ['\n'])) := by
  unfold Markup.parse?
  rw [hcontent, h.toList_source]

theorem outline?_of_source {t : Template} {lines : List String} {spelled : List (List Char)}
    (hcontent : t.content = Builtin.source lines) (h : SpellsAll lines spelled) :
    t.outline? =
      (Markup.parseChars? (spelled.flatMap (· ++ ['\n']))).bind Markup.outline? := by
  rw [outline?, parse?_of_source hcontent h]

def scope (t : Template) (now : Moment) (language : Language) (a : Analysis)
    (overrides : Entries) : Entries :=
  let bindings := t.bindings now language a overrides
  bindings.set "dependencies" (.strings (t.dependencies bindings))

/-- Of the four layers the last one that binds a name decides. -/
theorem get?_bindings (t : Template) (now : Moment) (language : Language) (a : Analysis)
    (overrides : Entries) (name : String) :
    (t.bindings now language a overrides).get? name =
      (Entries.get? overrides.reverse name).or
        ((Entries.get? (kindBindings a.intent.primary).reverse name).or
          ((Entries.get? (analysisBindings now language a).reverse name).or
            (Entries.get? t.defaults.reverse name))) := by
  unfold bindings
  simp [Entries.get?_setAll, Entries.get?_nil]

theorem get?_scope (t : Template) (now : Moment) (language : Language) (a : Analysis)
    (overrides : Entries) (name : String) :
    (t.scope now language a overrides).get? name =
      if name = "dependencies" then
        some (.strings (t.dependencies (t.bindings now language a overrides)))
      else (t.bindings now language a overrides).get? name :=
  Entries.get?_set _ _ _ _

/-- The template is for scripts of the kind that the analysis asks for, or for any kind. -/
def Suits (t : Template) (a : Analysis) : Prop :=
  t.category = Category.ofIntent a.intent.primary ∨ t.category = Category.basic

theorem suits_of_select {c : Catalog} {language : Language} {a : Analysis} {t : Template}
    (h : c.select language (Category.ofIntent a.intent.primary) = .ok t) : t.Suits a :=
  (Catalog.select_spec h).2.2.imp_right And.left

/-- The template writes no markup, so nothing in it is escaped. -/
def IsPlain (t : Template) : Prop := Markup.markupEndings.any (Text.finishesWith t.name) = false

end Template

namespace Engine

theorem toLookup_ofContext (values : Entries) :
    (Markup.Scope.ofContext values).toLookup = values.get? := by
  funext name
  unfold Markup.Scope.toLookup Markup.Scope.get? Markup.Scope.ofContext
  simp only [List.findSome?_cons, List.findSome?_nil, Markup.Frame.get?, Entries.get?_nil,
    Option.bind_none]
  cases values.get? name <;> rfl

variable {c : Catalog} {e : Engine} {t : Template} {parts : List Markup.Part}

theorem renderTemplate_of_body {e : Engine} {t : Template} {body : List Markup.Node}
    (h : e.body? t.name = some body) (bindings : Entries) :
    e.renderTemplate t bindings = (Markup.render t.name body bindings).mapError fun cause =>
      .templateRender t.name ("Failed to render '" ++ t.name ++ "': " ++ cause.message) := by
  have hbody : Markup.storedBody? e.store t.name = some body := h
  simp only [renderTemplate, Markup.renderer, Markup.renderStored, hbody]
  cases Markup.render t.name body bindings <;> rfl

theorem renderTemplate_toOption (he : ofCatalog c = .ok e) (ht : t ∈ c.templates)
    (hplain : t.IsPlain) (hparts : t.outline? = some parts) (bindings : Entries) :
    (e.renderTemplate t bindings).toOption =
      (Markup.writeAll bindings.get? parts).map String.ofList := by
  obtain ⟨body, hbody, houtline⟩ := Option.bind_eq_some_iff.mp hparts
  have hrender := @Markup.toOption_renderNodes ⟨t.name, false⟩ rfl (.ofContext bindings)
    body parts houtline
  rw [toLookup_ofContext] at hrender
  rw [renderTemplate_of_body ((body?_of_ofCatalog he ht).trans hbody), Markup.render, hplain]
  cases hnodes : Markup.renderNodes ⟨t.name, false⟩ (.ofContext bindings) body with
  | ok p =>
    rw [hnodes] at hrender
    obtain ⟨text, htext, rfl⟩ := Option.map_eq_some_iff.mp hrender.symm
    simp [htext, Except.map, Except.mapError, Except.toOption]
  | error cause =>
    rw [hnodes] at hrender
    have hnone := Option.map_eq_none_iff.mp hrender.symm
    simp [hnone, Except.map, Except.mapError, Except.toOption]

/-- What rendering with a template takes: all its required variables, and values that fit its
parts. -/
theorem render_eq_ok_iff (he : ofCatalog c = .ok e) {now : Moment} {language : Language}
    {a : Analysis} (ht : c.select language (Category.ofIntent a.intent.primary) = .ok t)
    (hplain : t.IsPlain) (hparts : t.outline? = some parts) {overrides : Entries}
    {r : RenderedScript} :
    e.render now language a overrides = .ok r ↔
      t.missingVariables (t.bindings now language a overrides) = [] ∧
        ∃ text, Markup.writeAll (t.scope now language a overrides).get? parts = some text ∧
          r = ⟨String.ofList text, t.name, t.dependencies (t.bindings now language a overrides),
            t.lint (String.ofList text)⟩ := by
  have hselect : e.select language a.intent.primary = .ok t := by
    rw [select, (ofCatalog_spec he).2.1, ht]
  have hwrite := renderTemplate_toOption he (Catalog.select_spec ht).1 hplain hparts
    (t.scope now language a overrides)
  unfold Template.scope at hwrite ⊢
  unfold render
  simp only [hselect, bind, Except.bind]
  split
  · rename_i hmissing
    rw [hmissing]
    cases hcode : e.renderTemplate t ((t.bindings now language a overrides).set "dependencies"
        (.strings (t.dependencies (t.bindings now language a overrides)))) with
    | error cause =>
      rw [hcode] at hwrite
      have hnone := Option.map_eq_none_iff.mp hwrite.symm
      simp [hnone]
    | ok code =>
      rw [hcode] at hwrite
      obtain ⟨text, htext, rfl⟩ := Option.map_eq_some_iff.mp hwrite.symm
      simp [htext, pure, Except.pure, eq_comm]
  · rename_i missing hmissing
    constructor
    · intro h
      cases h
    · rintro ⟨hnil, _⟩
      exact absurd hnil hmissing

end Engine

end Scriptwright
