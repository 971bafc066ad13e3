import Scriptwright.Proofs.Generation.Outcome

/-!
Advice given twice. A result carries what the check of the structure suggests and then what the
validation recommends. Neither says anything twice, but both look for the handling of errors, and a
script without any is told so by each of them.
-/
namespace Scriptwright

/-- What both of them say of a script that handles no errors. -/
def sharedAdvice : Language → String
  | .python => "Consider adding error handling with try/except blocks"
  | .bash => "Consider adding \"set -e\" for better error handling"

/-- What the handling of errors is told by. -/
def errorHandlers : Language → List String
  | .python => ["try:", "except"]
  | .bash => ["set -e"]

variable {R : Renderer}

theorem mem_adviseIf_iff {condition : Bool} {advice text : String} :
    text ∈ adviseIf condition advice ↔ condition = true ∧ text = advice := by
  cases condition <;> simp [adviseIf]

namespace Template

theorem structureSuggestions_eq (language : Language) (code : String) :
    structureSuggestions language code =
      adviseIf (!(errorHandlers language).head?.any (Text.hasPart code))
        (sharedAdvice language) := by
  cases language <;> rfl

theorem nodup_structureSuggestions (language : Language) (code : String) :
    (structureSuggestions language code).Nodup := by
  rw [structureSuggestions_eq, adviseIf]
  split
  · exact List.nodup_singleton _
  · exact List.nodup_nil

theorem suggestions_lint (t : Template) (code : String) :
    (t.lint code).suggestions =
      if Text.isBlankText code.toList then [] else structureSuggestions t.language code := by
  unfold lint
  split <;> rfl

theorem nodup_suggestions_lint (t : Template) (code : String) :
    (t.lint code).suggestions.Nodup := by
  rw [suggestions_lint]
  split
  · exact List.nodup_nil
  · exact nodup_structureSuggestions t.language code

theorem mem_suggestions_lint_iff {t : Template} {code text : String} :
    text ∈ (t.lint code).suggestions ↔
      Text.isBlankText code.toList = false ∧ text ∈ structureSuggestions t.language code := by
  rw [suggestions_lint]
  split <;> simp_all

end Template

namespace Recommendation

def advice : Language → List String
  | .python => [sharedAdvice .python, "Consider adding logging for better debugging",
      "Consider adding main guard for better module structure",
      "Consider adding docstrings for better documentation",
      "Avoid wildcard imports - import specific functions instead",
      "Consider adding scrypgen attribution markers to generated code"]
  | .bash => ["Consider adding logging for better debugging", sharedAdvice .bash,
      "Add proper shebang line for better portability",
      "Consider checking argument count before using positional parameters",
      "Consider adding scrypgen attribution markers to generated code"]

theorem nodup_advice (language : Language) : (advice language).Nodup := by
  cases language <;> decide

theorem adviseIf_sublist (condition : Bool) (text : String) :
    (adviseIf condition text).Sublist [text] := by
  cases condition
  · exact List.nil_sublist _
  · exact List.Sublist.refl _

theorem adviseIf_append_sublist {condition : Bool} {text : String} {given texts : List String}
    (h : given.Sublist texts) : (adviseIf condition text ++ given).Sublist (text :: texts) :=
  (adviseIf_sublist condition text).append h

theorem recommend_sublist (code : String) (language : Language) (attribution : Bool) :
    (recommend code language attribution).Sublist (advice language) := by
  cases language with
  | python =>
    simp only [recommend, forPython, List.append_assoc]
    iterate 5 apply adviseIf_append_sublist
    apply adviseIf_sublist
  | bash =>
    simp only [recommend, forBash, List.append_assoc]
    iterate 4 apply adviseIf_append_sublist
    apply adviseIf_sublist

theorem nodup_recommend (code : String) (language : Language) (attribution : Bool) :
    (recommend code language attribution).Nodup :=
  (nodup_advice language).sublist (recommend_sublist code language attribution)

theorem anyPart_eq_false_iff {code : String} {parts : List String} :
    anyPart code parts = false ↔ ∀ part ∈ parts, ¬ part.toList <:+: code.toList := by
  unfold anyPart
  rw [List.any_eq_false]
  simp only [Text.hasPart_iff]

theorem sharedAdvice_mem_recommend_iff (code : String) (language : Language) (attribution : Bool) :
    sharedAdvice language ∈ recommend code language attribution ↔
      anyPart code (errorHandlers language) = false := by
  unfold recommend
  cases language with
  | python => simp [forPython, mem_adviseIf_iff, sharedAdvice, errorHandlers]
  | bash => simp [forBash, mem_adviseIf_iff, sharedAdvice, errorHandlers, anyPart]

/-- The check of the structure looks for the first sign only, so the recommendations decide. -/
theorem given_twice_iff (code : String) (language : Language) (attribution : Bool) (text : String) :
    text ∈ Template.structureSuggestions language code ∧
        text ∈ recommend code language attribution ↔
      text = sharedAdvice language ∧ anyPart code (errorHandlers language) = false := by
  rw [Template.structureSuggestions_eq, mem_adviseIf_iff, Bool.not_eq_true']
  constructor
  · rintro ⟨⟨-, rfl⟩, hrecommended⟩
    exact ⟨rfl, (sharedAdvice_mem_recommend_iff code language attribution).mp hrecommended⟩
  · rintro ⟨rfl, hnone⟩
    refine ⟨⟨?_, rfl⟩, (sharedAdvice_mem_recommend_iff code language attribution).mpr hnone⟩
    rw [anyPart, List.any_eq_false] at hnone
    cases language with
    | python => exact Bool.eq_false_iff.mpr (hnone "try:" List.mem_cons_self)
    | bash => exact Bool.eq_false_iff.mpr (hnone "set -e" List.mem_cons_self)

end Recommendation

/-- A validation is wanted and comes to a verdict, whichever it is. -/
def Session.isValidated (s : Session R) (c : SyntaxCheck) : Bool :=
  s.generator.config.validateScripts && (s.generator.checker.answer s.asked.length c).isOk

theorem Session.recommendations_validate (s : Session R) (d : Draft) :
    (s.validate d).1.recommendations =
      if s.isValidated d.check then
        Recommendation.recommend d.script.code d.language s.generator.attribution
      else [] := by
  unfold validate isValidated ask
  cases s.generator.config.validateScripts with
  | false => rfl
  | true =>
    cases hanswer : s.generator.checker.answer s.asked.length d.check with
    | error cause => simp [Scriptwright.validate, Except.isOk, Except.toBool]
    | ok verdict =>
      cases verdict <;> simp [Scriptwright.validate, Except.isOk, Except.toBool, Draft.check]

theorem Session.nodup_recommendations (s : Session R) (d : Draft) :
    (s.validate d).1.recommendations.Nodup := by
  rw [recommendations_validate]
  split
  · exact Recommendation.nodup_recommend _ _ _
  · exact List.nodup_nil

theorem Session.mem_recommendations_iff {s : Session R} {d : Draft} {text : String} :
    text ∈ (s.validate d).1.recommendations ↔ s.isValidated d.check = true ∧ text ∈
      Recommendation.recommend d.script.code d.language s.generator.attribution := by
  rw [recommendations_validate]
  split <;> simp_all

theorem Generator.suggestions_result {g : Generator R} {now : Moment}
    {request : GenerationRequest} {outside : R.Outside} {d : Draft}
    (h : g.draft now request outside = .ok d) (v : ValidationResult) :
    ∃ t : Template, t.language = d.language ∧
      (d.result now request v).suggestions =
        (t.lint d.script.code).suggestions ++ v.recommendations := by
  obtain ⟨-, -, -, -, hrender⟩ := draft_eq_ok_iff.mp h
  obtain ⟨t, hlanguage, -, hfindings⟩ := Engine.findings_of_render hrender
  exact ⟨t, hlanguage, by simp only [Draft.result, hfindings]⟩

theorem count_append_of_nodup {xs ys : List String} (hxs : xs.Nodup) (hys : ys.Nodup)
    (text : String) : (xs ++ ys).count text ≤ 2 ∧
      ((xs ++ ys).count text = 2 ↔ text ∈ xs ∧ text ∈ ys) := by
  rw [List.count_append, hxs.count, hys.count]
  split_ifs <;> simp_all

/-- No text is suggested more than twice, and twice only the shared advice: for a script with more
than blanks in it that handles no errors, if its validation comes to a verdict. -/
theorem suggestions_repeated_iff (s : Session R) (now : Moment) (request : GenerationRequest)
    (outside : R.Outside) (text : String) :
    let r := (s.generate now request outside).1
    r.suggestions.count text ≤ 2 ∧
      (r.suggestions.count text = 2 ↔
        text = sharedAdvice r.language ∧ s.isValidated ⟨r.code, r.language⟩ = true ∧
          Text.isBlankText r.code.toList = false ∧
          ∀ part ∈ errorHandlers r.language, ¬ part.toList <:+: r.code.toList) := by
  intro r
  cases hdraft : s.generator.draft now request outside with
  | error cause =>
    have hr : r = .failure now cause := by
      simp only [r, Session.generate, hdraft]
    have hblank : Text.isBlankText (GenerationResult.failure now cause).code.toList = true := rfl
    have hcount := List.nodup_iff_count_le_one.mp (List.nodup_singleton cause.suggestion) text
    rw [hr, hblank]
    change [cause.suggestion].count text ≤ 2 ∧ ([cause.suggestion].count text = 2 ↔ _)
    constructor
    · omega
    · constructor
      · intro htwice
        omega
      · rintro ⟨-, -, hnot, -⟩
        cases hnot
  | ok d =>
    have hr : r = d.result now request (s.validate d).1 := Session.generate_of_draft hdraft
    have hcode : r.code = d.script.code := by rw [hr]; rfl
    have hlanguage : r.language = d.language := by rw [hr]; rfl
    obtain ⟨t, ht, hsuggestions⟩ := Generator.suggestions_result hdraft (s.validate d).1
    obtain ⟨hle, htwice⟩ := count_append_of_nodup (t.nodup_suggestions_lint d.script.code)
      (s.nodup_recommendations d) text
    rw [hcode, hlanguage, hr, hsuggestions]
    refine ⟨hle, htwice.trans ?_⟩
    rw [Template.mem_suggestions_lint_iff, Session.mem_recommendations_iff, ht,
      ← Recommendation.anyPart_eq_false_iff]
    have hgiven := Recommendation.given_twice_iff d.script.code d.language
      s.generator.attribution text
    constructor
    · rintro ⟨⟨hblank, hlint⟩, hvalidated, hrecommended⟩
      obtain ⟨hshared, hnone⟩ := hgiven.mp ⟨hlint, hrecommended⟩
      exact ⟨hshared, hvalidated, hblank, hnone⟩
    · rintro ⟨hshared, hvalidated, hblank, hnone⟩
      obtain ⟨hlint, hrecommended⟩ := hgiven.mpr ⟨hshared, hnone⟩
      exact ⟨⟨hblank, hlint⟩, hvalidated, hrecommended⟩

theorem outline?_greeting (name : String) (language : Language) (category : String) :
    (Engine.greeting name language category).outline? = some [.text "echo hi".toList] := by
  have hspelled : "echo hi".toList = ['e', 'c', 'h', 'o', ' ', 'h', 'i'] := by decide
  change (Markup.parse? "echo hi").bind Markup.outline? = _
  rw [Markup.parse?, hspelled]
  rfl

/-- A script of a single command is told about errors twice. -/
theorem greeting_advised_twice : ∃ e, Engine.ofCatalog Engine.greetings = .ok e ∧
    let r := ((Session.ofEngine e).generate ⟨0, 0⟩ shortRequest).1
    r.code = "echo hi" ∧ ¬ r.suggestions.Nodup ∧
      r.suggestions.count "Consider adding \"set -e\" for better error handling" = 2 := by
  obtain ⟨e, he⟩ := Engine.exists_greetings_engine
  refine ⟨e, he, ?_⟩
  let a := Description.analyzeNormal .standard (Description.normalizeChars "hello".toList)
  let t := Engine.greeting "two" .bash Category.basic
  have hcategory : Category.ofIntent a.intent.primary = Category.basic := by decide
  have hselect : Engine.greetings.select .bash (Category.ofIntent a.intent.primary) = .ok t := by
    rw [hcategory]
    rfl
  have hplain : t.IsPlain := by
    unfold Template.IsPlain
    decide
  have hrender : e.render ⟨0, 0⟩ .bash a [] =
      .ok ⟨"echo hi", "two", t.dependencies _, t.lint "echo hi"⟩ :=
    (Engine.render_eq_ok_iff he hselect hplain (outline?_greeting _ _ _)).mpr
      ⟨rfl, "echo hi".toList, rfl, rfl⟩
  have hdraft : (Session.ofEngine e).generator.draft ⟨0, 0⟩ shortRequest = .ok ⟨a, .bash, _⟩ :=
    Generator.draft_eq_ok_iff.mpr ⟨by decide, by decide, rfl, rfl, hrender⟩
  have hlint : (t.lint "echo hi").suggestions = [sharedAdvice .bash] := by decide
  have hadvised : Recommendation.recommend "echo hi" .bash true =
      [sharedAdvice .bash, "Add proper shebang line for better portability",
        "Consider adding scrypgen attribution markers to generated code"] := by
    decide +kernel
  rw [Session.generate_of_draft hdraft]
  intro r
  have hsuggestions : r.suggestions =
      (t.lint "echo hi").suggestions ++ Recommendation.recommend "echo hi" .bash true := rfl
  have htwice : r.suggestions.count (sharedAdvice .bash) = 2 := by
    rw [hsuggestions, hlint, hadvised]
    decide
  refine ⟨rfl, fun hnodup => ?_, htwice⟩
  have hle := List.nodup_iff_count_le_one.mp hnodup (sharedAdvice .bash)
  omega

end Scriptwright
