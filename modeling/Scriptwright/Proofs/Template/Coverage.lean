import Mathlib.Data.List.Induction
import Scriptwright.Proofs.Template.Compiled

/-!
Coverage under registration. A new engine covers every language with a basic template, but a
registration may put a template of another language or category in the place of the last basic
one. An engine serves every request exactly as long as no accepted registration does that.
-/
namespace Scriptwright

def Template.IsBasicOf (t : Template) (l : Language) : Prop :=
  t.language = l ∧ t.category = Category.basic

namespace Catalog

/-- Some template is a basic one of the language. -/
def Covers (c : Catalog) (l : Language) : Prop := ∃ t ∈ c.templates, t.IsBasicOf l

theorem isSome_find?_basic (c : Catalog) (l : Language) :
    (c.find? l Category.basic).isSome ↔ c.Covers l := by
  simp [find?, Covers, Template.IsBasicOf]

theorem checkCoverage_eq_ok_iff (c : Catalog) : c.checkCoverage = .ok () ↔ ∀ l, c.Covers l := by
  have huncovered : c.uncovered = [] ↔ ∀ l, c.Covers l := by
    unfold uncovered
    rw [List.filter_eq_nil_iff]
    constructor
    · intro h l
      rw [← isSome_find?_basic]
      have hl : l ∈ Language.all := by cases l <;> decide
      have found := h l hl
      rw [Option.isNone_iff_eq_none] at found
      exact Option.isSome_iff_ne_none.mpr found
    · intro h l _
      have hl := (isSome_find?_basic c l).mpr (h l)
      simp [Option.isSome_iff_ne_none.mp hl]
  rw [← huncovered]
  unfold checkCoverage
  cases c.uncovered with
  | nil => simp
  | cons l ls => simp

theorem exists_select_of_covers {c : Catalog} {l : Language} (h : c.Covers l)
    (category : String) : ∃ t, c.select l category = .ok t := by
  obtain ⟨basic, hbasic⟩ := Option.isSome_iff_exists.mp ((isSome_find?_basic c l).mpr h)
  unfold select
  cases c.find? l category with
  | some t => exact ⟨t, rfl⟩
  | none => exact ⟨basic, by rw [hbasic]⟩

theorem select_basic_of_not_covers {c : Catalog} {l : Language} (h : ¬ c.Covers l) :
    c.select l Category.basic = .error (.templateMissing l Category.basic) := by
  have hnone : c.find? l Category.basic = none := by
    rw [← isSome_find?_basic] at h
    simpa using h
  simp [select, hnone]

theorem covers_insert (c : Catalog) (t : Template) (l : Language) :
    (c.insert t).Covers l ↔
      t.IsBasicOf l ∨ ∃ u ∈ c.templates, u.name ≠ t.name ∧ u.IsBasicOf l := by
  unfold Covers
  constructor
  · rintro ⟨u, hu, hl⟩
    rcases (mem_insert c t u).mp hu with rfl | ⟨hu, hn⟩
    · exact .inl hl
    · exact .inr ⟨u, hu, hn, hl⟩
  · rintro (hl | ⟨u, hu, hn, hl⟩)
    · exact ⟨t, (mem_insert c t t).mpr (.inl rfl), hl⟩
    · exact ⟨u, (mem_insert c t u).mpr (.inr ⟨hu, hn⟩), hl⟩

end Catalog

namespace Engine

variable {R : Renderer}

/-- What a registration leaves, whether the template is taken or refused. -/
def afterRegister (e : Engine R) (t : Template) : Engine R := (e.tryRegister t).2

def registerAll (e : Engine R) (ts : List Template) : Engine R := ts.foldl afterRegister e

/-- The engine finds a template for every request and reports itself healthy. -/
structure Serves (e : Engine R) : Prop where
  covers : ∀ l, e.catalog.Covers l
  selects : ∀ l primary, ∃ t, e.select l primary = .ok t
  healthy : ∀ now, (e.health now).status = .healthy

/-- With the template in place of its namesake, every language still has a basic one. -/
def Spares (e : Engine R) (t : Template) : Prop :=
  ∀ l, t.IsBasicOf l ∨ ∃ u ∈ e.catalog.templates, u.name ≠ t.name ∧ u.IsBasicOf l

theorem status_health_of_covers {e : Engine R} (h : ∀ l, e.catalog.Covers l) (now : Moment) :
    (e.health now).status = .healthy := by
  obtain ⟨t, ht, _⟩ := h .bash
  have hsize : e.catalog.size ≠ 0 := fun h0 =>
    List.ne_nil_of_mem ht (List.length_eq_zero_iff.mp h0)
  unfold health
  rw [if_neg hsize, (Catalog.checkCoverage_eq_ok_iff e.catalog).mpr h]
  rfl

theorem serves_iff (e : Engine R) : e.Serves ↔ ∀ l, e.catalog.Covers l :=
  ⟨fun h => h.covers, fun h =>
    ⟨h, fun l _ => Catalog.exists_select_of_covers (h l) _, status_health_of_covers h⟩⟩

theorem afterRegister_catalog (e : Engine R) (t : Template) :
    (e.afterRegister t).catalog =
      if (e.register t).isOk then e.catalog.insert t else e.catalog := by
  unfold afterRegister register tryRegister
  cases hanswer : (compile R e.store t).1 <;> simp only [hanswer] <;> rfl

/-- One step: coverage survives exactly the registrations that are refused or spare it. -/
theorem afterRegister_serves_iff {e : Engine R} (h : e.Serves) (t : Template) :
    (e.afterRegister t).Serves ↔ ((e.register t).isOk → e.Spares t) := by
  rw [serves_iff, afterRegister_catalog]
  split
  · rename_i accepted
    simp only [Catalog.covers_insert, accepted, true_implies, Spares]
  · rename_i refused
    exact ⟨fun _ accepted => absurd accepted refused, fun _ => h.covers⟩

theorem serves_of_ofCatalog {c : Catalog} {e : Engine R} (h : ofCatalog c R = .ok e) :
    e.Serves := by
  obtain ⟨hcoverage, hcatalog, _⟩ := ofCatalog_spec h
  rw [serves_iff, hcatalog]
  exact (Catalog.checkCoverage_eq_ok_iff c).mp hcoverage

/-- Where some language is not covered, its basic script cannot be made and the health shows it. -/
theorem not_serves_iff (e : Engine R) :
    ¬ e.Serves ↔ ∃ l, e.select l .generalScripting = .error (.templateMissing l Category.basic) ∧
      ∀ now, (e.health now).status = .unhealthy := by
  constructor
  · intro h
    rw [serves_iff, not_forall] at h
    obtain ⟨l, hl⟩ := h
    refine ⟨l, Catalog.select_basic_of_not_covers hl, fun now => ?_⟩
    have hcheck : e.catalog.checkCoverage ≠ .ok () := fun hok =>
      hl ((Catalog.checkCoverage_eq_ok_iff e.catalog).mp hok l)
    unfold health
    split
    · rfl
    · cases hc : e.catalog.checkCoverage with
      | ok _ => exact absurd hc hcheck
      | error cause => rfl
  · rintro ⟨l, hl, _⟩ h
    obtain ⟨t, ht⟩ := h.selects l .generalScripting
    rw [ht] at hl
    cases hl

theorem registerAll_append (e : Engine R) (made : List Template) (t : Template) :
    e.registerAll (made ++ [t]) = (e.registerAll made).afterRegister t := by
  simp [registerAll]

/-- An engine from a catalog serves through a run of registrations exactly as long as no accepted
one takes the place of the last basic template of a language without being such a template. In a
state that does not serve, some language has no basic script and the health is bad. -/
theorem serves_through_iff {c : Catalog} {e : Engine R} (h : ofCatalog c R = .ok e)
    (ts : List Template) :
    ((∀ made, made <+: ts → (e.registerAll made).Serves) ↔
      ∀ made t, made ++ [t] <+: ts → ((e.registerAll made).register t).isOk →
        (e.registerAll made).Spares t) ∧
    ∀ made, made <+: ts → ¬ (e.registerAll made).Serves →
      ∃ l, (e.registerAll made).select l .generalScripting =
          .error (.templateMissing l Category.basic) ∧
        ∀ now, ((e.registerAll made).health now).status = .unhealthy := by
  refine ⟨⟨fun hall made t hpre => ?_, fun hspares made => ?_⟩,
    fun made _ => (not_serves_iff _).mp⟩
  · have hmade := hall made ((List.prefix_append made [t]).trans hpre)
    rw [← afterRegister_serves_iff hmade, ← registerAll_append]
    exact hall _ hpre
  · -- from the right: each state is reached by one more registration
    induction made using List.reverseRecOn with
    | nil => exact fun _ => serves_of_ofCatalog h
    | append_singleton made t ih =>
      intro hpre
      have hmade := ih ((List.prefix_append made [t]).trans hpre)
      rw [registerAll_append, afterRegister_serves_iff hmade]
      exact hspares made t hpre

def greeting (name : String) (language : Language) (category : String) : Template where
  name := name
  language := language
  category := category
  description := ""
  content := "echo hi"
  parameters := []
  requirements := []
  compliant := false

def greetings : Catalog :=
  Catalog.empty.insertAll
    [greeting "one" .python Category.basic, greeting "two" .bash Category.basic]

theorem parse?_greeting : (Markup.parse? "echo hi").isSome := by decide

theorem greetings_templates : greetings.templates =
    [greeting "one" .python Category.basic, greeting "two" .bash Category.basic] := rfl

theorem exists_greetings_engine : ∃ e, ofCatalog greetings = .ok e := by
  have hcover : ∀ l, greetings.Covers l := by
    intro l
    unfold Catalog.Covers
    rw [greetings_templates]
    cases l <;> simp [Template.IsBasicOf, greeting]
  refine exists_ofCatalog ((Catalog.checkCoverage_eq_ok_iff _).mpr hcover) fun t ht => ?_
  rw [greetings_templates] at ht
  have hcontent : t.content = "echo hi" := by
    rcases List.mem_cons.mp ht with rfl | ht
    · rfl
    · rw [List.mem_singleton.mp ht]
      rfl
  rw [hcontent]
  exact parse?_greeting

theorem isOk_register {e : Engine} {t : Template} (h : (Markup.parse? t.content).isSome) :
    (e.register t).isOk := by
  obtain ⟨body, hbody⟩ := Option.isSome_iff_exists.mp h
  simp [register, tryRegister, compile, Markup.renderer, Markup.add, hbody, Except.mapError,
    Except.map, Except.isOk, Except.toBool]

/-- The namesake of the only basic Bash template, but for another purpose. -/
def intruder : Template := greeting "two" .bash Category.web

theorem not_spares_intruder {e : Engine} (h : e.catalog = greetings) : ¬ e.Spares intruder := by
  intro hspares
  rcases hspares .bash with hbasic | ⟨u, hu, hname, hlanguage, -⟩
  · exact absurd hbasic.2 (by decide)
  · rw [h, greetings_templates] at hu
    rcases List.mem_cons.mp hu with rfl | hu
    · cases hlanguage
    · rcases List.mem_singleton.mp hu with rfl
      exact hname rfl

/-- One accepted registration ends the service of an engine that covered every language. -/
theorem intruder_ends_service : ∃ e, ofCatalog greetings = .ok e ∧
    ∃ l, (e.registerAll [intruder]).select l .generalScripting =
        .error (.templateMissing l Category.basic) ∧
      ∀ now, ((e.registerAll [intruder]).health now).status = .unhealthy := by
  obtain ⟨e, he⟩ := exists_greetings_engine
  refine ⟨e, he, (not_serves_iff _).mp ?_⟩
  change ¬ (e.afterRegister intruder).Serves
  rw [afterRegister_serves_iff (serves_of_ofCatalog he)]
  intro hspares
  exact not_spares_intruder (ofCatalog_spec he).2.1 (hspares (isOk_register parse?_greeting))

/-- A template under a name of its own does no harm. -/
theorem newcomer_keeps_service : ∃ e, ofCatalog greetings = .ok e ∧
    ∀ made, made <+: [greeting "three" .python Category.web] → (e.registerAll made).Serves := by
  obtain ⟨e, he⟩ := exists_greetings_engine
  refine ⟨e, he, (serves_through_iff he _).1.mpr fun made t hpre _ l => ?_⟩
  have hlength : (made ++ [t]).length ≤ 1 := hpre.length_le
  have hmade : made = [] := List.length_eq_zero_iff.mp (by simpa using hlength)
  have ht : t = greeting "three" .python Category.web := by
    subst hmade
    simpa using hpre
  rw [hmade, ht, registerAll, List.foldl_nil, (ofCatalog_spec he).2.1, greetings_templates]
  cases l <;> simp [Template.IsBasicOf, greeting]

end Engine

end Scriptwright
