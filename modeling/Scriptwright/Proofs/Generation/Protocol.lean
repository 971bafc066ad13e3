import Mathlib.Data.List.Forall2
import Scriptwright.Proofs.Generation.Clock

/-!
Runs of a generator: calls of all kinds, one after the other. A run serves the requests behind its
calls in their order. Its checker is asked once for every script that a template is rendered to and
for nothing else, and what a result says beyond the checker's answer depends on its request alone.
-/
namespace Scriptwright

variable {R : Renderer}

inductive Call (R : Renderer := Markup.renderer) where
  | generate (job : Job R)
  | batch (jobs : List (Job R))
  | kdeConnect (now : Moment) (outside : R.Outside) (description command : String)
  | nemoAction (now : Moment) (outside : R.Outside) (description actionName : String)
  | health (now : Moment)

def Call.jobs : Call R → List (Job R)
  | .generate job => [job]
  | .batch jobs => jobs
  | .kdeConnect now outside description command =>
    [⟨Session.kdeRequest description command, now, outside⟩]
  | .nemoAction now outside description actionName =>
    [⟨Session.nemoRequest description actionName, now, outside⟩]
  | .health _ => []

inductive Answer where
  | result (r : GenerationResult)
  | report (r : BatchReport)
  | health (r : HealthReport)

namespace Answer

def results : Answer → List GenerationResult
  | .result r => [r]
  | .report r => r.results
  | .health _ => []

end Answer

/-- Whether the description is taken and a template rendered: then there is something to check. -/
def Generator.renders (g : Generator R) (job : Job R) : Bool :=
  let description := job.request.description
  let a := Description.analyzeNormal g.vocabulary
    (Description.normalizeChars description.toList)
  !Text.isBlankText description.toList && description.utf8ByteSize ≤ Description.maxBytes &&
    (g.engine.render job.now (g.language job.request a) a job.request.templateOverrides
      job.outside).isOk

def GenerationResult.check (r : GenerationResult) : SyntaxCheck := ⟨r.code, r.language⟩

/-- Equal in everything that the verdict of a checker has no part in. -/
structure GenerationResult.SameScript (r r' : GenerationResult) : Prop where
  code : r.code = r'.code
  language : r.language = r'.language
  metadata : r.metadata = r'.metadata
  companions : r.companions = r'.companions

theorem isOk_iff_exists {ε α : Type} {x : Except ε α} : x.isOk = true ↔ ∃ a, x = .ok a := by
  cases x <;> simp [Except.isOk, Except.toBool]

theorem Generator.renders_eq_isOk_draft (g : Generator R) (job : Job R) :
    g.renders job = (g.draft job.now job.request job.outside).isOk := by
  rw [Bool.eq_iff_iff, isOk_iff_exists, renders, Bool.and_eq_true, Bool.and_eq_true,
    isOk_iff_exists, Bool.not_eq_true', decide_eq_true_eq]
  constructor
  · rintro ⟨⟨hblank, hlength⟩, script, hscript⟩
    exact ⟨⟨_, _, script⟩, draft_eq_ok_iff.mpr ⟨hblank, hlength, rfl, rfl, hscript⟩⟩
  · rintro ⟨d, hdraft⟩
    obtain ⟨hblank, hlength, hanalysis, hlanguage, hscript⟩ := draft_eq_ok_iff.mp hdraft
    rw [hlanguage, hanalysis] at hscript
    exact ⟨⟨hblank, hlength⟩, d.script, hscript⟩

namespace Session

def perform (s : Session R) : Call R → Answer × Session R
  | .generate job => (s.generate job.now job.request job.outside).map .result id
  | .batch jobs => (s.serveBatch jobs).map .report id
  | .kdeConnect now outside description command =>
    (s.generateKdeConnect now description command outside).map .result id
  | .nemoAction now outside description actionName =>
    (s.generateNemoAction now description actionName outside).map .result id
  | .health now => (.health (s.generator.health now), s)

def run (s : Session R) : List (Call R) → List Answer × Session R
  | [] => ([], s)
  | call :: calls =>
    let (answer, s) := s.perform call
    let (answers, s) := s.run calls
    (answer :: answers, s)

theorem serve_append (s : Session R) (before after : List (Job R)) :
    s.serve (before ++ after) =
      ((s.serve before).1 ++ ((s.serve before).2.serve after).1,
        ((s.serve before).2.serve after).2) := by
  induction before generalizing s with
  | nil => rfl
  | cons job before ih => simp [serve, ih]

theorem perform_spec (s : Session R) (call : Call R) :
    ((s.perform call).1.results, (s.perform call).2) = s.serve call.jobs := by
  cases call <;> rfl

theorem run_spec (s : Session R) (calls : List (Call R)) :
    ((s.run calls).1.flatMap Answer.results, (s.run calls).2) =
      s.serve (calls.flatMap Call.jobs) := by
  induction calls generalizing s with
  | nil => rfl
  | cons call calls ih =>
    rw [List.flatMap_cons, serve_append, ← perform_spec, ← ih]
    rfl

theorem results_run (s : Session R) (calls : List (Call R)) :
    (s.run calls).1.flatMap Answer.results = (s.serve (calls.flatMap Call.jobs)).1 :=
  congrArg Prod.fst (s.run_spec calls)

theorem session_run (s : Session R) (calls : List (Call R)) :
    (s.run calls).2 = (s.serve (calls.flatMap Call.jobs)).2 :=
  congrArg Prod.snd (s.run_spec calls)

theorem length_serve (s : Session R) (jobs : List (Job R)) :
    (s.serve jobs).1.length = jobs.length := by
  induction jobs generalizing s with
  | nil => rfl
  | cons job jobs ih => simp [serve, ih]

theorem length_results_run (s : Session R) (calls : List (Call R)) :
    (s.run calls).1.map (·.results.length) = calls.map (·.jobs.length) := by
  induction calls generalizing s with
  | nil => rfl
  | cons call calls ih =>
    have hlength := congrArg (·.1.length) (s.perform_spec call)
    simp only [length_serve] at hlength
    simp [run, ih, hlength]

theorem generator_generate (s : Session R) (now : Moment) (request : GenerationRequest)
    (outside : R.Outside) : (s.generate now request outside).2.generator = s.generator := by
  unfold generate validate ask
  cases s.generator.draft now request outside with
  | error e => rfl
  | ok d => cases s.generator.config.validateScripts <;> rfl

theorem generator_serve (s : Session R) (jobs : List (Job R)) :
    (s.serve jobs).2.generator = s.generator := by
  induction jobs generalizing s with
  | nil => rfl
  | cons job jobs ih => exact (ih _).trans (s.generator_generate _ _ _)

theorem asked_generate (s : Session R) (job : Job R) :
    (s.generate job.now job.request job.outside).2.asked =
      if s.generator.config.validateScripts && s.generator.renders job then
        (s.generate job.now job.request job.outside).1.check :: s.asked
      else s.asked := by
  rw [Generator.renders_eq_isOk_draft]
  unfold generate validate ask
  cases s.generator.draft job.now job.request job.outside with
  | error e => simp [Except.isOk, Except.toBool]
  | ok d => cases s.generator.config.validateScripts <;> rfl

/-- What a run makes the checker be asked, if scripts are checked at all. -/
theorem asked_serve (s : Session R) (jobs : List (Job R)) :
    (s.serve jobs).2.asked =
      if s.generator.config.validateScripts then
        (((jobs.zip (s.serve jobs).1).filter fun p => s.generator.renders p.1).map
          fun p => p.2.check).reverse ++ s.asked
      else s.asked := by
  induction jobs generalizing s with
  | nil => simp [serve]
  | cons job jobs ih =>
    have hrest := ih (s.generate job.now job.request job.outside).2
    rw [asked_generate, generator_generate] at hrest
    simp only [serve, List.zip_cons_cons, hrest]
    cases s.generator.config.validateScripts with
    | false => simp
    | true => cases hrenders : s.generator.renders job <;> simp [hrenders]

/-- Generators that differ in their checkers alone. -/
def SameButChecker (s s' : Session R) : Prop :=
  ∃ checker, s'.generator = { s.generator with checker }

theorem SameButChecker.draft {s s' : Session R} (h : s.SameButChecker s') (now : Moment)
    (request : GenerationRequest) (outside : R.Outside) :
    s'.generator.draft now request outside = s.generator.draft now request outside := by
  obtain ⟨checker, h⟩ := h
  rw [h]
  rfl

theorem SameButChecker.generate {s s' : Session R} (h : s.SameButChecker s') (now : Moment)
    (request : GenerationRequest) (outside : R.Outside) :
    (s.generate now request outside).2.SameButChecker (s'.generate now request outside).2 := by
  unfold SameButChecker
  rw [generator_generate, generator_generate]
  exact h

theorem sameScript_generate {s s' : Session R} (h : s.SameButChecker s') (now : Moment)
    (request : GenerationRequest) (outside : R.Outside) :
    (s.generate now request outside).1.SameScript (s'.generate now request outside).1 := by
  unfold Session.generate
  rw [h.draft]
  cases s.generator.draft now request outside with
  | error e => exact ⟨rfl, rfl, rfl, rfl⟩
  | ok d => exact ⟨rfl, rfl, rfl, rfl⟩

theorem sameScript_serve {s s' : Session R} (h : s.SameButChecker s') (jobs : List (Job R)) :
    List.Forall₂ GenerationResult.SameScript (s.serve jobs).1 (s'.serve jobs).1 := by
  induction jobs generalizing s s' with
  | nil => exact .nil
  | cons job jobs ih =>
    exact .cons (sameScript_generate h job.now job.request job.outside) (ih (h.generate _ _ _))

theorem getElem?_serve (s : Session R) (before after : List (Job R)) (job : Job R) :
    (s.serve (before ++ job :: after)).1[before.length]? =
      some ((s.serve before).2.generate job.now job.request job.outside).1 := by
  rw [serve_append, List.getElem?_append_right (Nat.le_of_eq (s.length_serve before)),
    length_serve, Nat.sub_self]
  rfl

end Session

/-- What holds of every run. Every call is answered with a result for each of its requests. The
generator stays as it is. If scripts are checked, then each request for which a template is rendered
has the checker asked once, for the script in its result, and nothing else is asked; if not, nothing
is asked. Other verdicts would not change the scripts. And each result, in a batch or not, is but
for its time the one that its request has on its own, after whatever else was done, if the checker
answers the same: under the same circumstances outside, or whenever the templates do not heed these,
and in the same second, or whenever the templates do not heed the time. -/
theorem run_protocol (s : Session R) (calls : List (Call R)) :
    let results := (s.run calls).1.flatMap Answer.results
    let jobs := calls.flatMap Call.jobs
    (s.run calls).1.map (·.results.length) = calls.map (·.jobs.length) ∧
    (s.run calls).2.generator = s.generator ∧
    (s.run calls).2.asked =
      (if s.generator.config.validateScripts then
        (((jobs.zip results).filter fun p => s.generator.renders p.1).map
          fun p => p.2.check).reverse ++ s.asked
      else s.asked) ∧
    (∀ s' : Session R, s.SameButChecker s' →
      List.Forall₂ GenerationResult.SameScript results
        ((s'.run calls).1.flatMap Answer.results)) ∧
    ∀ before job after, jobs = before ++ job :: after →
      ∃ r, results[before.length]? = some r ∧
        ∀ (s' : Session R) (now : Moment) (outside : R.Outside), s'.generator = s.generator →
          (now.stamp = job.now.stamp ∨ s.generator.engine.IsTimeless) →
          (outside = job.outside ∨ s.generator.engine.IsSteady) →
          (∀ c, s.generator.checker.answer s'.asked.length c =
            s.generator.checker.answer (s.serve before).2.asked.length c) →
          (s'.generate now job.request outside).1 = r.stamped now := by
  intro results jobs
  have hresults : results = (s.serve jobs).1 := s.results_run calls
  refine ⟨s.length_results_run calls, ?_, ?_, ?_, ?_⟩
  · rw [s.session_run, Session.generator_serve]
  · rw [s.session_run, Session.asked_serve, ← hresults]
  · intro s' h
    rw [hresults, s'.results_run]
    exact Session.sameScript_serve h jobs
  · intro before job after hjobs
    refine ⟨((s.serve before).2.generate job.now job.request job.outside).1, ?_, ?_⟩
    · rw [hresults, hjobs, Session.getElem?_serve]
    · intro s' now outside hgenerator hnow houtside hanswers
      have hbefore := s.generator_serve before
      refine Session.generate_stamped ?_ ?_ ?_ ?_
      · rw [hbefore, hgenerator]
      · rw [hbefore, hgenerator]
      · rw [hbefore, hgenerator]
        exact Generator.draft_congr hnow houtside job.request
      · rw [hbefore, hgenerator]
        exact hanswers

/-- A request that fails does not bear on the one behind it in its batch. -/
theorem batch_keeps_apart : ∃ e, Engine.ofCatalog Catalog.builtin = .ok e ∧
    let s := Session.ofEngine e
    let calls : List Call := [.health ⟨0, 0⟩,
      .batch [⟨{ description := " " }, ⟨1, 0⟩, ()⟩, ⟨{ description := "Print hello" }, ⟨2, 5⟩, ()⟩]]
    ∃ r, ((s.run calls).1.flatMap Answer.results)[1]? = some r ∧
      (s.generate ⟨2, 7⟩ { description := "Print hello" }).1 = r.stamped ⟨2, 7⟩ := by
  obtain ⟨e, he⟩ := Template.Builtin.exists_engine
  refine ⟨e, he, ?_⟩
  intro s calls
  obtain ⟨-, -, -, -, halone⟩ := run_protocol s calls
  obtain ⟨r, hr, hsame⟩ := halone [⟨{ description := " " }, ⟨1, 0⟩, ()⟩]
    ⟨{ description := "Print hello" }, ⟨2, 5⟩, ()⟩ [] rfl
  exact ⟨r, hr, hsame s ⟨2, 7⟩ () rfl (.inl rfl) (.inl rfl) fun _ => rfl⟩

end Scriptwright
