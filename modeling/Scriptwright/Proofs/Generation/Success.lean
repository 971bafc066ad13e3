import Scriptwright.Proofs.Generation.Draft
import Scriptwright.Proofs.Template.Clean

/-!
Which requests succeed. With the built-in templates and the standard vocabulary, every description
that is taken at all gets a script that nothing is to be said against.
-/
namespace Scriptwright

open Description Template

namespace Session

theorem validate_of_passed {s : Session} {d : Draft}
    (hpassed : ∀ n c, s.generator.checker.answer n c = .ok .passed)
    (hscan : Security.scan d.script.code d.language = []) :
    (s.validate d).1.isValid = true ∧ (s.validate d).1.syntaxErrors = [] ∧
      (s.validate d).1.securityWarnings = [] ∧ (s.validate d).1.notices = [] := by
  unfold validate
  split
  · simp [ask, hpassed, Scriptwright.validate, Draft.check, hscan]
  · exact ⟨rfl, rfl, rfl, rfl⟩

theorem success_of_generate {s : Session} {now : Moment} {request : GenerationRequest}
    (h : (s.generate now request).1.success = true) :
    ∃ d, s.generator.draft now request = .ok d := by
  cases hdraft : s.generator.draft now request with
  | ok d => exact ⟨d, rfl⟩
  | error e =>
    unfold generate at h
    rw [hdraft] at h
    cases h

theorem exists_draft {s : Session} (he : Engine.ofCatalog Catalog.builtin = .ok s.generator.engine)
    (hv : s.generator.vocabulary = .standard) (now : Moment) {request : GenerationRequest}
    (hoverrides : request.templateOverrides = [])
    (hblank : Text.isBlankText request.description.toList = false)
    (hlength : request.description.utf8ByteSize ≤ maxBytes) :
    ∃ d t, s.generator.draft now request = .ok d ∧
      Catalog.builtin.select d.language (Category.ofIntent d.analysis.intent.primary) = .ok t ∧
      d.analysis = analyzeNormal .standard (normalizeChars request.description.toList) ∧
      d.script.template = t.name ∧ d.script.code ≠ "" ∧ d.script.findings.errors = [] ∧
      d.script.findings.warnings = [] ∧ Security.scan d.script.code d.language = [] := by
  let a := analyzeNormal .standard (normalizeChars request.description.toList)
  obtain ⟨t, ht⟩ := Catalog.exists_select_of_covers
    (Builtin.covers (s.generator.language request a)) (Category.ofIntent a.intent.primary)
  obtain ⟨script, hrender, hscript⟩ :=
    Builtin.exists_clean he now (areStandard_analyzeNormal _) ht
  refine ⟨⟨a, s.generator.language request a, script⟩, t, ?_, ht, rfl, hscript⟩
  rw [Generator.draft_eq_ok_iff, hv, hoverrides]
  exact ⟨hblank, hlength, rfl, rfl, hrender⟩

end Session

/-- A request without bindings of its own succeeds exactly if its description is neither blank nor
too long, and then no part of the program has anything to say against the script, which comes from
the template for the kind of script and the language. -/
theorem generate_succeeds_iff (s : Session) (now : Moment) (request : GenerationRequest)
    (he : Engine.ofCatalog Catalog.builtin = .ok s.generator.engine)
    (hv : s.generator.vocabulary = .standard)
    (hpassed : ∀ n c, s.generator.checker.answer n c = .ok .passed)
    (hoverrides : request.templateOverrides = []) :
    let r := (s.generate now request).1
    let intent := (analyzeNormal .standard (normalizeChars request.description.toList)).intent
    let category := Category.ofIntent intent.primary
    (r.success = true ↔ Text.isBlankText request.description.toList = false ∧
      request.description.utf8ByteSize ≤ maxBytes) ∧
    (r.success = true → r.errors = [] ∧ r.warnings = [] ∧ r.code ≠ "" ∧
      ∃ t ∈ Builtin.all, t.name = r.metadata.templateUsed ∧ t.language = r.language ∧
        (t.category = category ∨ t.category = Category.basic ∧
          ∀ u ∈ Builtin.all, u.language = r.language → u.category ≠ category)) := by
  intro r intent category
  have taken : r.success = true → Text.isBlankText request.description.toList = false ∧
      request.description.utf8ByteSize ≤ maxBytes := by
    intro hsuccess
    obtain ⟨d, hdraft⟩ := Session.success_of_generate hsuccess
    obtain ⟨hblank, hlength, -⟩ := Generator.draft_eq_ok_iff.mp hdraft
    exact ⟨hblank, hlength⟩
  have clean : Text.isBlankText request.description.toList = false ∧
      request.description.utf8ByteSize ≤ maxBytes → r.success = true ∧ r.errors = [] ∧
        r.warnings = [] ∧ r.code ≠ "" ∧
        ∃ t ∈ Builtin.all, t.name = r.metadata.templateUsed ∧ t.language = r.language ∧
          (t.category = category ∨ t.category = Category.basic ∧
            ∀ u ∈ Builtin.all, u.language = r.language → u.category ≠ category) := by
    rintro ⟨hblank, hlength⟩
    obtain ⟨d, t, hdraft, ht, hanalysis, hname, hcode, herrors, hwarnings, hscan⟩ :=
      Session.exists_draft he hv now hoverrides hblank hlength
    obtain ⟨hvalid, hsyntax, hsecurity, hnotices⟩ := Session.validate_of_passed hpassed hscan
    obtain ⟨hmem, hlanguage, hcategory⟩ := Catalog.select_spec ht
    have hr : r = d.result now request (s.validate d).1 := Session.generate_of_draft hdraft
    rw [hr]
    refine ⟨?_, ?_, ?_, hcode, t, (Catalog.mem_builtin t).mp hmem, hname.symm, hlanguage, ?_⟩
    · simp [Draft.result, hvalid, hcode]
    · simp [Draft.result, herrors, hsyntax]
    · simp [Draft.result, hwarnings, hsecurity, hnotices]
    · simp only [Catalog.mem_builtin, hanalysis] at hcategory
      exact hcategory
  exact ⟨⟨taken, fun h => (clean h).1⟩, fun h => (clean (taken h)).2⟩

/-- A greeting in Python. -/
theorem greeting_succeeds : ∃ e, Engine.ofCatalog Catalog.builtin = .ok e ∧
    ((Session.ofEngine e).generate ⟨0, 0⟩ { description := "Print hello" }).1.success = true := by
  obtain ⟨e, he⟩ := Builtin.exists_engine
  have hiff := (generate_succeeds_iff (.ofEngine e) ⟨0, 0⟩ { description := "Print hello" } he rfl
    (fun _ _ => rfl) rfl).1
  exact ⟨e, he, hiff.mpr (by decide)⟩

end Scriptwright
