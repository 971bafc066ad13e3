import Scriptwright.Proofs.Template.Coverage

/-!
Registration against building anew. An engine keeps its catalog and its compiled bodies apart and
changes both with every registration. With a lawful renderer the two stay in step through any run
of registrations, so the engine answers like one whose bodies are all compiled afresh from the
catalog it holds, and a refused registration leaves no trace.
-/
namespace Scriptwright.Engine

variable {R : Renderer} {e f : Engine R} {t : Template}

/-- The engine with the same catalog and every body compiled afresh. -/
def rebuild (e : Engine R) : Except GenerationError (Engine R) := do
  let store ← compileAll R R.empty e.catalog.templates
  return ⟨e.catalog, store⟩

/-- The two engines cannot be told apart by what they answer. -/
structure Agrees (e f : Engine R) : Prop where
  names : e.catalog.names = f.catalog.names
  get : ∀ name, e.catalog.get? name = f.catalog.get? name
  select : ∀ l primary, e.select l primary = f.select l primary
  render : ∀ now l a overrides outside,
    e.render now l a overrides outside = f.render now l a overrides outside

theorem tryRegister_of_none (laws : R.Lawful) (h : R.parse? t.name t.content = none) :
    (∃ cause, (e.tryRegister t).1 = .error cause) ∧ (e.afterRegister t).catalog = e.catalog ∧
      ∀ name, (e.afterRegister t).body? name = e.body? name := by
  obtain ⟨⟨cause, hcause⟩, hbody⟩ := compile_of_none laws e.store h
  have hregister : e.tryRegister t = (.error cause, ⟨e.catalog, (compile R e.store t).2⟩) := by
    simp only [tryRegister, hcause]
  unfold afterRegister
  rw [hregister]
  exact ⟨⟨cause, rfl⟩, rfl, hbody⟩

theorem tryRegister_of_some (laws : R.Lawful) (h : e.InStep) (ht : t.StandsAlone R)
    {body : R.Body} (hparse : R.parse? t.name t.content = some body) :
    (e.tryRegister t).1 = .ok () ∧ (e.afterRegister t).catalog = e.catalog.insert t ∧
      ∀ name, (e.afterRegister t).body? name =
        if t.name = name then some body else e.body? name := by
  obtain ⟨hanswer, hbody⟩ := compile_of_some laws h.allAlone ht hparse
  have hregister : e.tryRegister t = (.ok (), ⟨e.catalog.insert t, (compile R e.store t).2⟩) := by
    simp only [tryRegister, hanswer]
  unfold afterRegister
  rw [hregister]
  exact ⟨rfl, rfl, hbody⟩

theorem exists_register_error_iff (laws : R.Lawful) (h : e.InStep) (ht : t.StandsAlone R) :
    (∃ cause, e.register t = .error cause) ↔ R.parse? t.name t.content = none := by
  unfold register
  cases hparse : R.parse? t.name t.content with
  | none =>
    obtain ⟨⟨cause, hcause⟩, -⟩ := tryRegister_of_none (e := e) laws hparse
    rw [hcause]
    exact ⟨fun _ => rfl, fun _ => ⟨cause, rfl⟩⟩
  | some body =>
    rw [(tryRegister_of_some laws h ht hparse).1]
    constructor
    · rintro ⟨cause, hcause⟩
      cases hcause
    · intro hnone
      cases hnone

/-- One step: a template that is taken comes into both places under its name. -/
theorem InStep.afterRegister (laws : R.Lawful) (h : e.InStep) (ht : t.StandsAlone R) :
    (e.afterRegister t).InStep := by
  cases hparse : R.parse? t.name t.content with
  | none =>
    obtain ⟨-, hcatalog, hbody⟩ := tryRegister_of_none (e := e) laws hparse
    constructor
    · rw [hcatalog]
      exact h.parses
    · rw [hcatalog]
      exact h.alone
    · intro name
      rw [hbody, h.body, hcatalog]
  | some body =>
    obtain ⟨-, hcatalog, hbody⟩ := tryRegister_of_some laws h ht hparse
    constructor
    · intro u hu
      rw [hcatalog, Catalog.mem_insert] at hu
      rcases hu with rfl | ⟨hu, -⟩
      · rw [hparse]
        rfl
      · exact h.parses u hu
    · intro u hu
      rw [hcatalog, Catalog.mem_insert] at hu
      rcases hu with rfl | ⟨hu, -⟩
      · exact ht
      · exact h.alone u hu
    · intro name
      rw [hbody, hcatalog, Catalog.get?_insert, h.body]
      split
      · exact hparse.symm
      · rfl

theorem InStep.registerAll (laws : R.Lawful) (h : e.InStep) {ts : List Template}
    (hts : ∀ t ∈ ts, t.StandsAlone R) : (e.registerAll ts).InStep := by
  induction ts generalizing e with
  | nil => exact h
  | cons t ts ih =>
    obtain ⟨ht, hts⟩ := List.forall_mem_cons.mp hts
    exact ih (h.afterRegister laws ht) hts

theorem registerAll_nil (e : Engine R) : e.registerAll [] = e := rfl

theorem registerAll_cons (e : Engine R) (t : Template) (ts : List Template) :
    e.registerAll (t :: ts) = (e.afterRegister t).registerAll ts := rfl

theorem registerAll_split (e : Engine R) (ts later : List Template) :
    e.registerAll (ts ++ later) = (e.registerAll ts).registerAll later := List.foldl_append

theorem registerAll_catalog (laws : R.Lawful) (h : e.InStep) {ts : List Template}
    (hts : ∀ t ∈ ts, t.StandsAlone R) :
    (e.registerAll ts).catalog =
      e.catalog.insertAll (ts.filter fun t => (R.parse? t.name t.content).isSome) := by
  induction ts generalizing e with
  | nil => rfl
  | cons t ts ih =>
    obtain ⟨ht, hts⟩ := List.forall_mem_cons.mp hts
    rw [registerAll_cons, ih (h.afterRegister laws ht) hts, List.filter_cons]
    cases hparse : R.parse? t.name t.content with
    | none => rw [(tryRegister_of_none laws hparse).2.1, if_neg (by simp)]
    | some body =>
      rw [(tryRegister_of_some laws h ht hparse).2.1, if_pos (Option.isSome_some)]
      rfl

/-- Answers depend on the catalog and on the bodies under its names, not on how these are kept. -/
theorem InStep.agrees (laws : R.Lawful) (he : e.InStep) (hf : f.InStep)
    (h : e.catalog = f.catalog) : e.Agrees f := by
  have hselect : ∀ l primary, e.select l primary = f.select l primary := by
    intro l primary
    unfold Engine.select
    rw [h]
  have hbody : ∀ name, e.body? name = f.body? name := by
    intro name
    rw [he.body, hf.body, h]
  have hrender : ∀ outside, R.render outside e.store = R.render outside f.store := by
    intro outside
    exact laws.render_congr outside e.store f.store hbody
  refine ⟨by rw [h], fun name => by rw [h], hselect, fun now l a overrides outside => ?_⟩
  unfold Engine.render Engine.renderTemplate
  simp only [hselect, hrender]

theorem InStep.exists_rebuild (laws : R.Lawful) (h : e.InStep) :
    ∃ f, e.rebuild = .ok f ∧ f.catalog = e.catalog ∧ f.InStep := by
  obtain ⟨store, hstore, hstep⟩ := exists_inStep laws h.alone h.parses
  refine ⟨⟨e.catalog, store⟩, ?_, rfl, hstep⟩
  unfold rebuild
  rw [hstore]
  rfl

/-- A refused template makes no difference to what any later registrations come to. -/
theorem agrees_without_refused (laws : R.Lawful) (h : e.InStep)
    (hrefused : R.parse? t.name t.content = none) {made later : List Template}
    (hmade : ∀ u ∈ made, u.StandsAlone R) (hlater : ∀ u ∈ later, u.StandsAlone R) :
    (e.registerAll (made ++ t :: later)).Agrees (e.registerAll (made ++ later)) := by
  have hreached : (e.registerAll made).InStep := h.registerAll laws hmade
  have ht : t.StandsAlone R := by
    intro body hbody
    rw [hrefused] at hbody
    cases hbody
  have hnext : ((e.registerAll made).afterRegister t).InStep := hreached.afterRegister laws ht
  rw [registerAll_split, registerAll_split, registerAll_cons]
  refine (hnext.registerAll laws hlater).agrees laws (hreached.registerAll laws hlater) ?_
  rw [registerAll_catalog laws hnext hlater, registerAll_catalog laws hreached hlater,
    (tryRegister_of_none laws hrefused).2.1]

/-- After any registrations an engine holds the templates that parse, each compiled from what the
catalog has under its name, and it answers, now and after further registrations, like an engine
built anew from that catalog. Exactly the templates that do not parse are refused, and a refused
one makes no difference to any later answer. All of this is for templates that stand alone and for
a renderer that keeps its laws on them. -/
theorem registerAll_agrees_rebuild (laws : R.Lawful) {c : Catalog} (h : ofCatalog c R = .ok e)
    (hc : ∀ t ∈ c.templates, t.StandsAlone R) (made : List Template)
    (hmade : ∀ t ∈ made, t.StandsAlone R) :
    let reached := e.registerAll made
    reached.catalog = c.insertAll (made.filter fun t => (R.parse? t.name t.content).isSome) ∧
    (∀ name t, reached.catalog.get? name = some t →
      ∃ body, R.parse? name t.content = some body ∧ reached.body? name = some body) ∧
    (∃ rebuilt, reached.rebuild = .ok rebuilt ∧
      ∀ later : List Template, (∀ t ∈ later, t.StandsAlone R) →
        (reached.registerAll later).Agrees (rebuilt.registerAll later)) ∧
    ∀ t : Template, t.StandsAlone R →
      ((∃ cause, reached.register t = .error cause) ↔ R.parse? t.name t.content = none) ∧
      ∀ cause, reached.register t = .error cause →
        ∀ later : List Template, (∀ u ∈ later, u.StandsAlone R) →
          (e.registerAll (made ++ t :: later)).Agrees (e.registerAll (made ++ later)) := by
  intro reached
  have hstart : e.InStep := inStep_of_ofCatalog laws h hc
  have hstep : reached.InStep := hstart.registerAll laws hmade
  refine ⟨?_, ?_, ?_, fun t ht => ⟨exists_register_error_iff laws hstep ht, ?_⟩⟩
  · rw [← (ofCatalog_spec h).2.1]
    exact registerAll_catalog laws hstart hmade
  · intro name t ht
    have hname : t.name = name := by simpa using List.find?_some ht
    obtain ⟨body, hbody⟩ := Option.isSome_iff_exists.mp
      (hstep.parses t (List.mem_of_find?_eq_some ht))
    refine ⟨body, hname ▸ hbody, ?_⟩
    rw [hstep.body, ht, Option.bind_some, hbody]
  · obtain ⟨rebuilt, hrebuilt, hcatalog, hrebuiltStep⟩ := hstep.exists_rebuild laws
    refine ⟨rebuilt, hrebuilt, fun later hlater => ?_⟩
    refine (hstep.registerAll laws hlater).agrees laws (hrebuiltStep.registerAll laws hlater) ?_
    rw [registerAll_catalog laws hstep hlater, registerAll_catalog laws hrebuiltStep hlater,
      hcatalog]
  · intro cause hcause later hlater
    have hrefused : R.parse? t.name t.content = none :=
      (exists_register_error_iff laws hstep ht).mp ⟨cause, hcause⟩
    exact agrees_without_refused laws hstart hrefused hmade hlater

def farewell : Template := { greeting "two" .python Category.web with content := "echo bye" }

def broken : Template := { greeting "two" .bash Category.basic with content := "\x7b% if %\x7d" }

/-- Of two namesakes only the one that parses takes effect, in the catalog and in the bodies. -/
theorem farewell_replaces : ∃ e, ofCatalog greetings = .ok e ∧
    let reached := e.registerAll [farewell, broken]
    reached.catalog.get? "two" = some farewell ∧
    (∃ body, Markup.parse? farewell.content = some body ∧ reached.body? "two" = some body) ∧
    (∃ rebuilt, reached.rebuild = .ok rebuilt ∧ reached.Agrees rebuilt) ∧
    ∃ cause, reached.register broken = .error cause := by
  obtain ⟨e, he⟩ := exists_greetings_engine
  obtain ⟨hcatalog, hbody, ⟨rebuilt, hrebuilt, hlater⟩, hrefused⟩ :=
    registerAll_agrees_rebuild Markup.renderer_lawful he (fun t _ => standsAlone_markup t)
      [farewell, broken] fun t _ => standsAlone_markup t
  have hfarewell : (Markup.parse? farewell.content).isSome = true := by decide
  have hbroken : (Markup.parse? broken.content).isSome = false := by decide +kernel
  have hmade : [farewell, broken].filter (fun t =>
      (Markup.renderer.parse? t.name t.content).isSome) = [farewell] := by
    simp only [Markup.renderer, List.filter_cons, List.filter_nil, hfarewell, hbroken, if_true,
      Bool.false_eq_true, if_false]
  have hget : (e.registerAll [farewell, broken]).catalog.get? "two" = some farewell := by
    rw [hcatalog, hmade]
    generalize greetings = c
    exact (Catalog.get?_insert c farewell "two").trans (if_pos rfl)
  have hagrees := hlater [] fun t _ => standsAlone_markup t
  rw [registerAll_nil, registerAll_nil] at hagrees
  have hnone : Markup.parse? broken.content = none := by
    rw [← Option.not_isSome_iff_eq_none, hbroken]
    exact Bool.false_ne_true
  exact ⟨e, he, hget, hbody "two" farewell hget, ⟨rebuilt, hrebuilt, hagrees⟩,
    (hrefused broken (standsAlone_markup broken)).1.mpr hnone⟩

end Scriptwright.Engine
