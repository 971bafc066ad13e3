import Scriptwright.Proofs.Generation.Draft
import Scriptwright.Proofs.Markup.Agreement
import Scriptwright.Proofs.Template.Builtin

/-!
What the clock and other outside circumstances have to do with a result. Every template is rendered
with a time stamp among its values, but no built-in template shows it, so two readings of the clock
give the same result except for the time that its metadata carry.
-/
namespace Scriptwright

variable {R : Renderer}

namespace Template

theorem get?_timestamp (t : Template) (now : Moment) (language : Language) (a : Analysis)
    (overrides : Entries) :
    (t.scope now language a overrides).get? "timestamp" =
      some ((Entries.get? overrides.reverse "timestamp").getD (.string now.stamp)) := by
  have hkind : Entries.get? (kindBindings a.intent.primary).reverse "timestamp" = none := by
    cases a.intent.primary <;> simp [kindBindings, Entries.get?_cons, Entries.get?_nil]
  have hanalysis : Entries.get? (analysisBindings now language a).reverse "timestamp" =
      some (.string now.stamp) := by
    simp [analysisBindings, Entries.get?_cons]
  rw [get?_scope, if_neg (by decide), get?_bindings, hkind, hanalysis]
  cases Entries.get? overrides.reverse "timestamp" <;> rfl

theorem get?_bindings_of_ne (t : Template) (now now' : Moment) (language : Language) (a : Analysis)
    (overrides : Entries) {name : String} (h : name ≠ "timestamp") :
    (t.bindings now language a overrides).get? name =
      (t.bindings now' language a overrides).get? name := by
  have hanalysis : Entries.get? (analysisBindings now language a).reverse name =
      Entries.get? (analysisBindings now' language a).reverse name := by
    simp [analysisBindings, Entries.get?_cons, h]
  rw [get?_bindings, get?_bindings, hanalysis]

theorem missingVariables_congr (t : Template) (now now' : Moment) (language : Language)
    (a : Analysis) (overrides : Entries) :
    t.missingVariables (t.bindings now language a overrides) =
      t.missingVariables (t.bindings now' language a overrides) := by
  have hhas : (t.bindings now language a overrides).has =
      (t.bindings now' language a overrides).has := by
    funext name
    unfold Entries.has
    by_cases hname : name = "timestamp"
    · have hbound := get?_timestamp t now language a overrides
      have hbound' := get?_timestamp t now' language a overrides
      rw [get?_scope, if_neg (by decide)] at hbound hbound'
      rw [hname, hbound, hbound', Option.isSome_some, Option.isSome_some]
    · rw [get?_bindings_of_ne t now now' language a overrides hname]
  unfold missingVariables
  rw [hhas]

theorem dependencies_congr (t : Template) (now now' : Moment) (language : Language) (a : Analysis)
    (overrides : Entries) :
    t.dependencies (t.bindings now language a overrides) =
      t.dependencies (t.bindings now' language a overrides) := by
  unfold dependencies boundStrings
  rw [get?_bindings_of_ne t now now' language a overrides (by decide : "imports" ≠ "timestamp"),
    get?_bindings_of_ne t now now' language a overrides (by decide : "commands" ≠ "timestamp")]

theorem get?_scope_of_ne (t : Template) (now now' : Moment) (language : Language) (a : Analysis)
    (overrides : Entries) {name : String} (h : name ≠ "timestamp") :
    (t.scope now language a overrides).get? name =
      (t.scope now' language a overrides).get? name := by
  rw [get?_scope, get?_scope, dependencies_congr t now now',
    get?_bindings_of_ne t now now' language a overrides h]

theorem scope_of_stamp (t : Template) {now now' : Moment} (h : now.stamp = now'.stamp)
    (language : Language) (a : Analysis) (overrides : Entries) :
    t.scope now language a overrides = t.scope now' language a overrides := by
  have hanalysis : analysisBindings now language a = analysisBindings now' language a := by
    simp only [analysisBindings, h]
  simp only [scope, bindings, hanalysis]

/-- No name in the template is the time stamp's. -/
def IsTimeless (t : Template) : Prop :=
  ∀ body, Markup.parse? t.content = some body → "timestamp" ∉ Markup.nodeNames body

theorem Builtin.isTimeless {t : Template} (h : t ∈ all) : t.IsTimeless :=
  fun _ hbody => timestamp_not_mem h hbody

end Template

namespace Engine

/-- What the templates are rendered to depends on nothing outside. -/
def IsSteady (e : Engine R) : Prop :=
  ∀ t ∈ e.catalog.templates, ∀ bindings outside outside',
    R.render outside e.store t.name bindings = R.render outside' e.store t.name bindings

/-- What the templates are rendered to does not depend on the time stamp among their values. -/
def IsTimeless (e : Engine R) : Prop :=
  ∀ t ∈ e.catalog.templates, ∀ outside, ∀ bindings bindings' : Entries,
    (∀ name, name ≠ "timestamp" → bindings.get? name = bindings'.get? name) →
      R.render outside e.store t.name bindings = R.render outside e.store t.name bindings'

theorem isTimeless_of_templates {c : Catalog} {e : Engine} (he : ofCatalog c = .ok e)
    (h : ∀ t ∈ c.templates, t.IsTimeless) : e.IsTimeless := by
  intro t ht outside bindings bindings' hbindings
  rw [(ofCatalog_spec he).2.1] at ht
  have hbody := body?_of_ofCatalog he ht
  change Markup.storedBody? e.store t.name = _ at hbody
  simp only [Markup.renderer, Markup.renderStored, hbody]
  cases hparse : Markup.parse? t.content with
  | none => rfl
  | some body =>
    have hrender := Markup.render_congr t.name fun name hname =>
      hbindings name fun heq => h t ht body hparse (heq ▸ hname)
    simp only [hrender]

theorem render_congr {e : Engine R} {now now' : Moment} {outside outside' : R.Outside}
    (hnow : now.stamp = now'.stamp ∨ e.IsTimeless) (houtside : outside = outside' ∨ e.IsSteady)
    (language : Language) (a : Analysis) (overrides : Entries) :
    e.render now language a overrides outside = e.render now' language a overrides outside' := by
  unfold render
  cases hselect : e.select language a.intent.primary with
  | error cause => simp only [bind, Except.bind]
  | ok t =>
    have ht : t ∈ e.catalog.templates := (Catalog.select_spec hselect).1
    have htime : R.render outside e.store t.name (t.scope now language a overrides) =
        R.render outside e.store t.name (t.scope now' language a overrides) := by
      rcases hnow with hstamp | htimeless
      · rw [t.scope_of_stamp hstamp]
      · exact htimeless t ht outside _ _ fun name hname =>
          t.get?_scope_of_ne now now' language a overrides hname
    have houtside : R.render outside e.store t.name (t.scope now' language a overrides) =
        R.render outside' e.store t.name (t.scope now' language a overrides) := by
      rcases houtside with rfl | hsteady
      · rfl
      · exact hsteady t ht _ outside outside'
    have hrender := htime.trans houtside
    simp only [Template.scope] at hrender
    simp only [bind, Except.bind, renderTemplate, t.missingVariables_congr now now']
    rw [hrender, t.dependencies_congr now now']

end Engine

theorem Generator.draft_congr {g : Generator R} {now now' : Moment} {outside outside' : R.Outside}
    (hnow : now.stamp = now'.stamp ∨ g.engine.IsTimeless)
    (houtside : outside = outside' ∨ g.engine.IsSteady) (request : GenerationRequest) :
    g.draft now request outside = g.draft now' request outside' := by
  unfold draft
  simp only [Engine.render_congr hnow houtside]

/-- Time does not matter: at any two moments, and after whatever the checkers were asked before, the
same answers of the checker make the same result for a request, except for the time in its metadata.
Still every template could tell the time. -/
theorem generate_independent_of_clock (s : Session)
    (he : Engine.ofCatalog Catalog.builtin = .ok s.generator.engine) (checker : SyntaxChecker)
    (asked : List SyntaxCheck)
    (hanswers : ∀ c, checker.answer asked.length c =
      s.generator.checker.answer s.asked.length c)
    (request : GenerationRequest) (now now' : Moment) :
    (Session.generate ⟨{ s.generator with checker }, asked⟩ now' request).1 =
        (s.generate now request).1.stamped now' ∧
      ∀ (t : Template) (language : Language) (a : Analysis),
        (t.scope now language a request.templateOverrides).get? "timestamp" =
          some ((Entries.get? request.templateOverrides.reverse "timestamp").getD
            (.string now.stamp)) := by
  have htimeless : s.generator.engine.IsTimeless := Engine.isTimeless_of_templates he fun t ht =>
    Template.Builtin.isTimeless ((Catalog.mem_builtin t).mp ht)
  refine ⟨Session.generate_stamped rfl rfl ?_ hanswers, fun t language a => ?_⟩
  · exact Generator.draft_congr (.inr htimeless) (.inl rfl) request
  · exact t.get?_timestamp now language a _

/-- A request with a time stamp of its own, a day apart. -/
theorem backup_independent_of_clock : ∃ e, Engine.ofCatalog Catalog.builtin = .ok e ∧
    let request : GenerationRequest :=
      { description := "Back up files", templateOverrides := [("timestamp", .bool true)] }
    ((Session.ofEngine e).generate ⟨86400, 5⟩ request).1 =
      ((Session.ofEngine e).generate ⟨0, 0⟩ request).1.stamped ⟨86400, 5⟩ := by
  obtain ⟨e, he⟩ := Template.Builtin.exists_engine
  have hboth := generate_independent_of_clock (.ofEngine e) he .lenient [] (fun _ => rfl)
    { description := "Back up files", templateOverrides := [("timestamp", .bool true)] }
    ⟨0, 0⟩ ⟨86400, 5⟩
  exact ⟨e, he, hboth.1⟩

end Scriptwright
