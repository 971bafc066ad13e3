import Scriptwright.Generator
import Scriptwright.Proofs.Template.WellKinded

/-!
What a generator makes of a request: the draft, in terms of the description and the engine, and the
script, in terms of what the selected built-in template writes. It is there for every request with a
description that is taken, and with bindings of the declared kinds.
-/
namespace Scriptwright

open Description Markup Template

variable {R : Renderer}

/-- A draft takes a description that is neither blank nor too long, and a script from the engine. -/
theorem Generator.draft_eq_ok_iff {g : Generator R} {now : Moment} {request : GenerationRequest}
    {outside : R.Outside} {d : Draft} :
    g.draft now request outside = .ok d ↔
      Text.isBlankText request.description.toList = false ∧
      request.description.utf8ByteSize ≤ maxBytes ∧
      d.analysis = analyzeNormal g.vocabulary (normalizeChars request.description.toList) ∧
      d.language = g.language request d.analysis ∧
      g.engine.render now d.language d.analysis request.templateOverrides outside =
        .ok d.script := by
  obtain ⟨analysis, language, script⟩ := d
  have htaken : ∀ a : Analysis, (Except.ok a : Except TooLong Analysis).mapError
      (fun e => GenerationError.analysis e.message) = .ok a := fun _ => rfl
  have hrefused : ∀ e : TooLong, (Except.error e : Except TooLong Analysis).mapError
      (fun e => GenerationError.analysis e.message) = .error (.analysis e.message) := fun _ => rfl
  unfold draft analyze
  by_cases hblank : Text.isBlankText request.description.toList = true
  · simp [hblank, throw, throwThe, MonadExceptOf.throw, bind, Except.bind]
  · by_cases hlong : maxBytes < request.description.utf8ByteSize
    · simp [hblank, hlong, hrefused, bind, Except.bind, Nat.not_le.mpr hlong]
    · simp only [hblank, hlong, htaken, bind, Except.bind, pure, Except.pure,
        Bool.false_eq_true, if_false]
      constructor
      · intro h
        split at h
        · cases h
        · rename_i found hfound
          obtain ⟨rfl, rfl, rfl⟩ := (Draft.mk.injEq ..).mp (Except.ok.inj h)
          exact ⟨trivial, Nat.not_lt.mp hlong, rfl, rfl, hfound⟩
      · rintro ⟨_, _, rfl, rfl, hscript⟩
        rw [hscript]

theorem Session.generate_of_draft {s : Session R} {now : Moment} {request : GenerationRequest}
    {outside : R.Outside} {d : Draft} (h : s.generator.draft now request outside = .ok d) :
    (s.generate now request outside).1 = d.result now request (s.validate d).1 := by
  unfold generate
  rw [h]

/-- The result with the time of another moment in its metadata. -/
def GenerationResult.stamped (r : GenerationResult) (now : Moment) : GenerationResult :=
  { r with metadata := { r.metadata with generatedAt := now.exact } }

/-- The same draft and the same answer of the checker make the same result but for its time. -/
theorem Session.generate_stamped {s s' : Session R} {now now' : Moment}
    {request : GenerationRequest} {outside outside' : R.Outside}
    (hconfig : s'.generator.config = s.generator.config)
    (hattribution : s'.generator.attribution = s.generator.attribution)
    (hdraft : s'.generator.draft now' request outside' = s.generator.draft now request outside)
    (hanswers : ∀ c, s'.generator.checker.answer s'.asked.length c =
      s.generator.checker.answer s.asked.length c) :
    (s'.generate now' request outside').1 =
      (s.generate now request outside).1.stamped now' := by
  unfold generate
  rw [hdraft]
  cases s.generator.draft now request outside with
  | error e => rfl
  | ok d =>
    have hvalidate : (s'.validate d).1 = (s.validate d).1 := by
      unfold validate ask
      rw [hconfig, hattribution, hanswers]
      split <;> rfl
    simp only [hvalidate]
    rfl

def SyntaxChecker.lenient : SyntaxChecker where
  answer _ _ := .ok .passed
  probe now := .healthy now "lenient" none

/-- A new session with an engine and otherwise as by default. -/
def Session.ofEngine (e : Engine) : Session where
  generator := { config := {}, vocabulary := .standard, engine := e, checker := .lenient }

namespace Template.Builtin

theorem wellKinded_of_strings {t : Template} (ht : t ∈ all) {overrides : Entries}
    (h : ∀ name v, (name, v) ∈ overrides → (name, true) ∉ allNames ∧ ∃ s, v = .string s) :
    t.WellKinded overrides := by
  intro v hv value hmem
  obtain ⟨hlist, s, rfl⟩ := h v.name value hmem
  rcases (parameters_bound ht v hv).2 with ⟨-, hkind⟩ | ⟨hbound, -⟩
  · rw [hkind]
    exact ⟨s, rfl⟩
  · exact absurd (boundNames_subset _ hbound) hlist

end Template.Builtin

namespace Session

theorem exists_script {s : Session} (now : Moment) {request : GenerationRequest}
    (he : Engine.ofCatalog Catalog.builtin = .ok s.generator.engine)
    (hblank : Text.isBlankText request.description.toList = false)
    (hlength : request.description.utf8ByteSize ≤ maxBytes) {t : Template} (ht : t ∈ Builtin.all)
    (hkinds : t.WellKinded request.templateOverrides) :
    let a := analyzeNormal s.generator.vocabulary (normalizeChars request.description.toList)
    t.language = s.generator.language request a →
    t.category = Category.ofIntent a.intent.primary →
    ∃ parts text script, s.generator.draft now request = .ok ⟨a, t.language, script⟩ ∧
      t.outline? = some parts ∧
      writeAll (t.scope now t.language a request.templateOverrides).get? parts = some text ∧
      script.code = String.ofList text ∧ script.template = t.name ∧
      script.dependencies =
        t.dependencies (t.bindings now t.language a request.templateOverrides) := by
  intro a hlanguage hcategory
  have hselect :
      Catalog.builtin.select t.language (Category.ofIntent a.intent.primary) = .ok t := by
    rw [← hcategory]
    exact Builtin.select_eq ht
  obtain ⟨parts, text, hparts, hwrite, hrender⟩ :=
    Builtin.exists_render_of_wellKinded he ht hselect hkinds now
  have hdraft : s.generator.draft now request = .ok ⟨a, t.language, _⟩ :=
    Generator.draft_eq_ok_iff.mpr ⟨hblank, hlength, rfl, hlanguage, hrender⟩
  exact ⟨parts, text, _, hdraft, hparts, hwrite, rfl, rfl, rfl⟩

end Session

end Scriptwright
