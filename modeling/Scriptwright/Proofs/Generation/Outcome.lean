import Scriptwright.Proofs.Generation.Draft
import Scriptwright.Proofs.Template.Coverage
import Scriptwright.Proofs.Template.Rendering

/-!
Success against errors. A result without errors is a success, but a success may carry an error: a
script of blanks only is no code for the structure check, yet it is not empty. This is the only
way in which the two part.
-/
namespace Scriptwright

open Description

variable {R : Renderer}

theorem Template.errors_lint (t : Template) (code : String) :
    (t.lint code).errors =
      if Text.isBlankText code.toList then ["Template '" ++ t.name ++ "' produced no code"]
      else [] := by
  unfold lint
  split <;> rfl

theorem Engine.findings_of_render {e : Engine R} {now : Moment} {language : Language}
    {a : Analysis} {overrides : Entries} {outside : R.Outside} {r : RenderedScript}
    (h : e.render now language a overrides outside = .ok r) :
    ∃ t : Template, t.language = language ∧ r.template = t.name ∧ r.findings = t.lint r.code := by
  unfold render at h
  simp only [bind, Except.bind] at h
  split at h
  · cases h
  · rename_i t hselect
    split at h
    · split at h
      · cases h
      · obtain rfl := Except.ok.inj h
        exact ⟨t, (Catalog.select_spec hselect).2.1, rfl, rfl⟩
    · cases h

/-- Skipped, passed, refused, without an answer or broken down: a validation holds a script valid
exactly if it has no syntax error to report. -/
theorem Session.isValid_validate_iff (s : Session R) (d : Draft) :
    (s.validate d).1.isValid = true ↔ (s.validate d).1.syntaxErrors = [] := by
  have answered : ∀ attribution c answer,
      (Scriptwright.validate attribution c answer).isValid = true ↔
        (Scriptwright.validate attribution c answer).syntaxErrors = [] := by
    intro attribution c answer
    cases answer with
    | error cause => simp [Scriptwright.validate]
    | ok verdict => cases verdict <;> simp [Scriptwright.validate]
  unfold validate
  split
  · exact answered _ _ _
  · exact ⟨fun _ => rfl, fun _ => rfl⟩

theorem Draft.success_result_iff (d : Draft) (now : Moment) (request : GenerationRequest)
    (v : ValidationResult) :
    (d.result now request v).success = true ↔ v.isValid = true ∧ d.script.code ≠ "" := by
  simp [result]

theorem Generator.errors_result {g : Generator R} {now : Moment} {request : GenerationRequest}
    {outside : R.Outside} {d : Draft} (h : g.draft now request outside = .ok d)
    (v : ValidationResult) :
    (d.result now request v).errors =
      (if Text.isBlankText d.script.code.toList then
        ["Template '" ++ d.script.template ++ "' produced no code"] else []) ++ v.syntaxErrors := by
  obtain ⟨_, _, _, _, hrender⟩ := draft_eq_ok_iff.mp h
  obtain ⟨t, -, hname, hfindings⟩ := Engine.findings_of_render hrender
  simp only [Draft.result, hfindings, hname, Template.errors_lint]

/-- A result has no errors exactly if it is a success whose script is more than blanks. The error of
a success is always the one about a blank script that is not empty. -/
theorem errors_eq_nil_iff (s : Session R) (now : Moment) (request : GenerationRequest)
    (outside : R.Outside) :
    let r := (s.generate now request outside).1
    (r.errors = [] ↔ r.success = true ∧ Text.isBlankText r.code.toList = false) ∧
    (r.success = true → Text.isBlankText r.code.toList = true →
      r.code ≠ "" ∧
        r.errors = ["Template '" ++ r.metadata.templateUsed ++ "' produced no code"]) := by
  intro r
  cases hdraft : s.generator.draft now request outside with
  | error cause =>
    have hr : r = .failure now cause := by
      simp only [r, Session.generate, hdraft]
    rw [hr]
    exact ⟨⟨fun h => (List.cons_ne_nil _ _ h).elim, fun h => by cases h.1⟩, fun h => by cases h⟩
  | ok d =>
    have hr : r = d.result now request (s.validate d).1 := Session.generate_of_draft hdraft
    have hcode : r.code = d.script.code := by rw [hr]; rfl
    have hused : r.metadata.templateUsed = d.script.template := by rw [hr]; rfl
    have herrors := Generator.errors_result hdraft (s.validate d).1
    have hsuccess := d.success_result_iff now request (s.validate d).1
    rw [← hr] at herrors hsuccess
    rw [hcode, hused, hsuccess, herrors, Session.isValid_validate_iff]
    have hempty : Text.isBlankText d.script.code.toList = false → d.script.code ≠ "" := by
      intro hblank h
      rw [h] at hblank
      cases hblank
    cases hblank : Text.isBlankText d.script.code.toList with
    | false => simp [hempty hblank]
    | true => exact ⟨by simp, fun h _ => ⟨h.2, by simp [h.1]⟩⟩

def blankLine (name : String) (language : Language) : Template :=
  { Engine.greeting name language Category.basic with content := "\n" }

def blankLines : Catalog := Catalog.empty.insertAll [blankLine "one" .python, blankLine "two" .bash]

theorem blankLines_templates :
    blankLines.templates = [blankLine "one" .python, blankLine "two" .bash] := rfl

theorem outline?_blankLine (name : String) (language : Language) :
    (blankLine name language).outline? = some [.text ['\n']] := by
  change (Markup.parse? "\n").bind Markup.outline? = _
  rfl

theorem exists_blankLines_engine : ∃ e, Engine.ofCatalog blankLines = .ok e := by
  refine Engine.exists_ofCatalog ((Catalog.checkCoverage_eq_ok_iff _).mpr fun l => ?_)
    fun t ht => ?_
  · unfold Catalog.Covers
    rw [blankLines_templates]
    cases l <;> simp [Template.IsBasicOf, blankLine, Engine.greeting]
  · have hcontent : t.content = "\n" := by
      rw [blankLines_templates] at ht
      rcases List.mem_cons.mp ht with rfl | ht
      · rfl
      · rw [List.mem_singleton.mp ht]
        rfl
    rw [hcontent]
    decide

def shortRequest : GenerationRequest := { description := "hello", language := some (.only .bash) }

/-- A blank script is a success with an error. -/
theorem blank_script_succeeds : ∃ e, Engine.ofCatalog blankLines = .ok e ∧
    let r := ((Session.ofEngine e).generate ⟨0, 0⟩ shortRequest).1
    r.success = true ∧ r.code = "\n" ∧ r.errors = ["Template 'two' produced no code"] := by
  obtain ⟨e, he⟩ := exists_blankLines_engine
  refine ⟨e, he, ?_⟩
  let a := analyzeNormal .standard (normalizeChars "hello".toList)
  let t := blankLine "two" .bash
  have hselect : blankLines.select .bash (Category.ofIntent a.intent.primary) = .ok t := by
    have hcovers := (Catalog.checkCoverage_eq_ok_iff _).mp (Engine.ofCatalog_spec he).1 .bash
    obtain ⟨u, hu⟩ := Catalog.exists_select_of_covers hcovers (Category.ofIntent a.intent.primary)
    obtain ⟨hmem, hlanguage, -⟩ := Catalog.select_spec hu
    rw [blankLines_templates] at hmem
    rcases List.mem_cons.mp hmem with rfl | hmem
    · cases hlanguage
    · rw [hu, List.mem_singleton.mp hmem]
  have hplain : t.IsPlain := by
    unfold Template.IsPlain
    decide
  have hrender : e.render ⟨0, 0⟩ .bash a [] = .ok ⟨"\n", "two", t.dependencies _, t.lint "\n"⟩ :=
    (Engine.render_eq_ok_iff he hselect hplain (outline?_blankLine "two" .bash)).mpr
      ⟨rfl, ['\n'], rfl, rfl⟩
  have hdraft : (Session.ofEngine e).generator.draft ⟨0, 0⟩ shortRequest = .ok ⟨a, .bash, _⟩ :=
    Generator.draft_eq_ok_iff.mpr ⟨by decide, by decide, rfl, rfl, hrender⟩
  rw [Session.generate_of_draft hdraft]
  exact ⟨rfl, rfl, rfl⟩

end Scriptwright
