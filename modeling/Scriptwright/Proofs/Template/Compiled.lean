import Mathlib.Data.List.Nodup
import Scriptwright.Template.Engine

/-!
Catalogs and the engines made from them. Names tell the templates of a catalog apart, and a new
engine has under every name the body of the template of that name.
-/
namespace Scriptwright

theorem Template.mem_place {ts : List Template} (h : Template.Ascending ts) (t u : Template) :
    u ∈ Template.place t ts ↔ u = t ∨ u ∈ ts ∧ u.name ≠ t.name := by
  induction ts with
  | nil => simp [Template.place]
  | cons v vs ih =>
    have hv := List.pairwise_cons.mp h
    have others : ∀ w ∈ vs, v.name ≠ w.name := fun w hw e =>
      String.lt_irrefl w.name (e ▸ hv.1 w hw)
    unfold Template.place
    split
    · rename_i lt
      have later : ∀ w ∈ v :: vs, w.name ≠ t.name := by
        intro w hw e
        rcases List.mem_cons.mp hw with rfl | hw
        · exact String.lt_irrefl _ (e ▸ lt)
        · exact String.lt_irrefl _ (e ▸ String.lt_trans lt (hv.1 w hw))
      constructor
      · intro hu
        rcases List.mem_cons.mp hu with rfl | hu
        · exact .inl rfl
        · exact .inr ⟨hu, later u hu⟩
      · rintro (rfl | hu)
        · exact List.mem_cons_self
        · exact List.mem_cons_of_mem t hu.1
    · split
      · rename_i same
        constructor
        · intro hu
          rcases List.mem_cons.mp hu with rfl | hu
          · exact .inl rfl
          · exact .inr ⟨List.mem_cons_of_mem v hu, fun e => others u hu (same.symm.trans e.symm)⟩
        · rintro (rfl | ⟨hu, hn⟩)
          · exact List.mem_cons_self
          · rcases List.mem_cons.mp hu with rfl | hu
            · exact absurd same.symm hn
            · exact List.mem_cons_of_mem t hu
      · rename_i different
        rw [List.mem_cons, ih hv.2]
        constructor
        · rintro (rfl | rfl | ⟨hu, hn⟩)
          · exact .inr ⟨List.mem_cons_self, fun e => different e.symm⟩
          · exact .inl rfl
          · exact .inr ⟨List.mem_cons_of_mem v hu, hn⟩
        · rintro (rfl | ⟨hu, hn⟩)
          · exact .inr (.inl rfl)
          · rcases List.mem_cons.mp hu with rfl | hu
            · exact .inl rfl
            · exact .inr (.inr ⟨hu, hn⟩)

namespace Catalog

theorem mem_insert (c : Catalog) (t u : Template) :
    u ∈ (c.insert t).templates ↔ u = t ∨ u ∈ c.templates ∧ u.name ≠ t.name :=
  Template.mem_place c.ascending t u

theorem nodup_names (c : Catalog) : (c.templates.map (·.name)).Nodup := by
  refine List.pairwise_map.mpr (c.ascending.imp fun {a b} hlt => ?_)
  intro e
  exact String.lt_irrefl b.name (e ▸ hlt)

theorem eq_of_name_eq {c : Catalog} {t u : Template} (ht : t ∈ c.templates)
    (hu : u ∈ c.templates) (h : t.name = u.name) : t = u :=
  List.inj_on_of_nodup_map c.nodup_names ht hu h

theorem get?_of_mem {c : Catalog} {t : Template} (h : t ∈ c.templates) :
    c.get? t.name = some t := by
  have hsome : (c.get? t.name).isSome := List.find?_isSome.mpr ⟨t, h, by simp⟩
  obtain ⟨u, hu⟩ := Option.isSome_iff_exists.mp hsome
  have hname : u.name = t.name := by simpa using List.find?_some hu
  rw [hu, eq_of_name_eq (List.mem_of_find?_eq_some hu) h hname]

theorem mem_insertAll {c : Catalog} {ts : List Template} (hts : (ts.map (·.name)).Nodup)
    (hc : ∀ t ∈ ts, ∀ u ∈ c.templates, u.name ≠ t.name) (u : Template) :
    u ∈ (c.insertAll ts).templates ↔ u ∈ c.templates ∨ u ∈ ts := by
  induction ts generalizing c with
  | nil => simp [insertAll]
  | cons t ts ih =>
    obtain ⟨ht, hrest⟩ := List.nodup_cons.mp hts
    have hnew : ∀ t' ∈ ts, ∀ w ∈ (c.insert t).templates, w.name ≠ t'.name := by
      intro t' ht' w hw
      rcases (mem_insert c t w).mp hw with rfl | ⟨hw, _⟩
      · exact fun e => ht (List.mem_map.mpr ⟨t', ht', e.symm⟩)
      · exact hc t' (List.mem_cons_of_mem t ht') w hw
    rw [show c.insertAll (t :: ts) = (c.insert t).insertAll ts from rfl, ih hrest hnew, mem_insert,
      List.mem_cons]
    constructor
    · rintro ((rfl | ⟨hu, _⟩) | hu)
      · exact .inr (.inl rfl)
      · exact .inl hu
      · exact .inr (.inr hu)
    · rintro (hu | rfl | hu)
      · exact .inl (.inr ⟨hu, hc t List.mem_cons_self u hu⟩)
      · exact .inl (.inl rfl)
      · exact .inr hu

theorem mem_builtin (t : Template) : t ∈ builtin.templates ↔ t ∈ Template.Builtin.all := by
  unfold builtin
  rw [mem_insertAll (by decide) (fun _ _ _ hu => absurd hu List.not_mem_nil)]
  simp [empty]

/-- What is selected is for the language, and basic only where nothing is for the category. -/
theorem select_spec {c : Catalog} {l : Language} {category : String} {t : Template}
    (h : c.select l category = .ok t) :
    t ∈ c.templates ∧ t.language = l ∧ (t.category = category ∨
      t.category = Category.basic ∧ ∀ u ∈ c.templates, u.language = l → u.category ≠ category) := by
  unfold select at h
  split at h
  · rename_i found hfound
    obtain rfl := Except.ok.inj h
    have hprops := List.find?_some hfound
    simp only [Bool.and_eq_true, decide_eq_true_eq] at hprops
    exact ⟨List.mem_of_find?_eq_some hfound, hprops.1, .inl hprops.2⟩
  · rename_i hnone
    split at h
    · rename_i found hfound
      obtain rfl := Except.ok.inj h
      have hprops := List.find?_some hfound
      simp only [Bool.and_eq_true, decide_eq_true_eq] at hprops
      refine ⟨List.mem_of_find?_eq_some hfound, hprops.1, .inr ⟨hprops.2, ?_⟩⟩
      intro u hu hl hcategory
      have hu' := List.find?_eq_none.mp hnone u hu
      simp [hl, hcategory] at hu'
    · cases h

end Catalog

namespace Renderer

variable {R : Renderer}

/-- No template in the store extends another one or takes macros from one. -/
def AllAlone (R : Renderer) (store : R.Store) : Prop :=
  ∀ name body, R.body? store name = some body → R.StandsAlone body

/-- What is relied on in a renderer as long as its templates stand alone: a source that does not
parse is refused and not kept, one that parses is kept in place of its namesake, and what comes of
rendering depends on the bodies that are kept. -/
structure Lawful (R : Renderer) : Prop where
  body_empty : ∀ name, R.body? R.empty name = none
  refused : ∀ store name source, R.parse? name source = none →
    (∃ cause, (R.add store name source).1 = .error cause) ∧
      ∀ other, R.body? (R.add store name source).2 other = R.body? store other
  kept : ∀ store name source body, R.AllAlone store → R.parse? name source = some body →
    R.StandsAlone body → (R.add store name source).1 = .ok () ∧
      ∀ other, R.body? (R.add store name source).2 other =
        if name = other then some body else R.body? store other
  render_congr : ∀ outside store store', (∀ name, R.body? store name = R.body? store' name) →
    R.render outside store = R.render outside store'

end Renderer

namespace Markup

theorem storedBody?_cons_filter (store : List CompiledTemplate) (c : CompiledTemplate)
    (name : String) :
    storedBody? (c :: store.filter (·.name ≠ c.name)) name =
      if c.name = name then some c.body else storedBody? store name := by
  unfold storedBody?
  rw [List.find?_cons]
  by_cases hname : c.name = name
  · simp [hname]
  · have hothers : (store.filter (·.name ≠ c.name)).find? (·.name = name) =
        store.find? (·.name = name) := by
      rw [List.find?_filter]
      congr 1
      funext u
      by_cases hu : u.name = name
      · simp [hu, Ne.symm hname]
      · simp [hu]
    simp only [hname, decide_false, if_false]
    rw [hothers]

theorem renderer_lawful : renderer.Lawful where
  body_empty _ := rfl
  refused store name source h := by
    have hadd : renderer.add store name source = (.error "malformed template", store) := by
      change parse? source = none at h
      simp only [renderer, add, h]
    rw [hadd]
    exact ⟨⟨_, rfl⟩, fun _ => rfl⟩
  kept store name source body _ h _ := by
    have hadd : renderer.add store name source =
        (.ok (), ⟨name, body⟩ :: List.filter (·.name ≠ name) store) := by
      change parse? source = some body at h
      simp only [renderer, add, h]
    rw [hadd]
    exact ⟨rfl, storedBody?_cons_filter store ⟨name, body⟩⟩
  render_congr _ store store' h := by
    funext name values
    have hname : storedBody? store name = storedBody? store' name := h name
    simp only [renderer, renderStored, hname]

end Markup

/-- If the template parses, it extends no other one and takes no macros from one. -/
def Template.StandsAlone (R : Renderer) (t : Template) : Prop :=
  ∀ body, R.parse? t.name t.content = some body → R.StandsAlone body

namespace Engine

variable {R : Renderer} {store : R.Store} {t : Template} {ts : List Template}

theorem compile_of_none (laws : R.Lawful) (store : R.Store)
    (h : R.parse? t.name t.content = none) :
    (∃ cause, (compile R store t).1 = .error cause) ∧
      ∀ name, R.body? (compile R store t).2 name = R.body? store name := by
  obtain ⟨⟨cause, hcause⟩, hbody⟩ := laws.refused store t.name t.content h
  refine ⟨⟨.templateRegistration t.name cause, ?_⟩, hbody⟩
  simp only [compile, hcause, Except.mapError]

theorem compile_of_some (laws : R.Lawful) (hstore : R.AllAlone store) (ht : t.StandsAlone R)
    {body : R.Body} (h : R.parse? t.name t.content = some body) :
    (compile R store t).1 = .ok () ∧
      ∀ name, R.body? (compile R store t).2 name =
        if t.name = name then some body else R.body? store name := by
  obtain ⟨hanswer, hbody⟩ := laws.kept store t.name t.content body hstore h (ht body h)
  refine ⟨?_, hbody⟩
  simp only [compile, hanswer, Except.mapError]

theorem allAlone_compile (laws : R.Lawful) (hstore : R.AllAlone store) (ht : t.StandsAlone R) :
    R.AllAlone (compile R store t).2 := by
  intro name body hbody
  cases h : R.parse? t.name t.content with
  | none =>
    rw [(compile_of_none laws store h).2] at hbody
    exact hstore name body hbody
  | some parsed =>
    rw [(compile_of_some laws hstore ht h).2] at hbody
    split at hbody
    · exact ht body (h.trans hbody)
    · exact hstore name body hbody

theorem isSome_parse?_of_compileAll (laws : R.Lawful) {store' : R.Store}
    (h : compileAll R store ts = .ok store') : ∀ t ∈ ts, (R.parse? t.name t.content).isSome := by
  induction ts generalizing store with
  | nil => simp
  | cons u us ih =>
    simp only [compileAll] at h
    intro t ht
    cases hparse : R.parse? u.name u.content with
    | none =>
      obtain ⟨⟨cause, hcause⟩, -⟩ := compile_of_none laws store hparse
      simp only [hcause] at h
      cases h
    | some body =>
      split at h
      · rcases List.mem_cons.mp ht with rfl | ht
        · rw [hparse]
          rfl
        · exact ih h t ht
      · cases h

/-- Of templates with names of their own, all that parse, each is kept under its name. -/
theorem exists_compileAll (laws : R.Lawful) (hstore : R.AllAlone store)
    (hts : ∀ t ∈ ts, t.StandsAlone R) (hnames : (ts.map (·.name)).Nodup)
    (hparse : ∀ t ∈ ts, (R.parse? t.name t.content).isSome) :
    ∃ store', compileAll R store ts = .ok store' ∧ ∀ name, R.body? store' name =
      ((ts.find? (·.name = name)).bind fun t => R.parse? t.name t.content).or
        (R.body? store name) := by
  induction ts generalizing store with
  | nil => exact ⟨store, rfl, fun name => rfl⟩
  | cons t ts ih =>
    obtain ⟨hnew, hnames⟩ := List.nodup_cons.mp hnames
    obtain ⟨body, hbody⟩ := Option.isSome_iff_exists.mp (hparse t List.mem_cons_self)
    have ht : t.StandsAlone R := hts t List.mem_cons_self
    obtain ⟨hanswer, hkept⟩ := compile_of_some laws hstore ht hbody
    obtain ⟨store', hall, hbodies⟩ := ih (allAlone_compile laws hstore ht)
      (fun u hu => hts u (List.mem_cons_of_mem t hu)) hnames
      fun u hu => hparse u (List.mem_cons_of_mem t hu)
    refine ⟨store', ?_, fun name => ?_⟩
    · simp only [compileAll, hanswer, hall]
    · rw [hbodies, hkept, List.find?_cons]
      by_cases hname : t.name = name
      · have hnone : ts.find? (·.name = name) = none := by
          refine List.find?_eq_none.mpr fun u hu => ?_
          intro hsame
          exact hnew (List.mem_map.mpr ⟨u, hu, (of_decide_eq_true hsame).trans hname.symm⟩)
        subst hname
        simp [hnone, hbody]
      · simp [hname]

theorem ofCatalog_spec {c : Catalog} {e : Engine R} (h : ofCatalog c R = .ok e) :
    c.checkCoverage = .ok () ∧ e.catalog = c ∧
      compileAll R R.empty c.templates = .ok e.store := by
  unfold ofCatalog at h
  cases hc : c.checkCoverage with
  | error cause => simp [hc, bind, Except.bind] at h
  | ok _ =>
    cases hm : compileAll R R.empty c.templates with
    | error cause => simp [hc, hm, bind, Except.bind] at h
    | ok store =>
      simp only [hc, hm, bind, Except.bind, pure, Except.pure, Except.ok.injEq] at h
      exact ⟨rfl, by rw [← h], by rw [← h]⟩

/-- Under every name the engine has the body that the template of that name is parsed to, and all
of these stand alone. -/
structure InStep (e : Engine R) : Prop where
  parses : ∀ t ∈ e.catalog.templates, (R.parse? t.name t.content).isSome
  alone : ∀ t ∈ e.catalog.templates, t.StandsAlone R
  body : ∀ name, e.body? name = (e.catalog.get? name).bind fun t => R.parse? t.name t.content

theorem InStep.allAlone {e : Engine R} (h : e.InStep) : R.AllAlone e.store := by
  intro name body hbody
  obtain ⟨t, ht, hparse⟩ := Option.bind_eq_some_iff.mp ((h.body name).symm.trans hbody)
  exact h.alone t (List.mem_of_find?_eq_some ht) body hparse

theorem allAlone_empty (laws : R.Lawful) : R.AllAlone R.empty := by
  intro name body hbody
  rw [laws.body_empty] at hbody
  cases hbody

theorem exists_inStep (laws : R.Lawful) {c : Catalog} (halone : ∀ t ∈ c.templates, t.StandsAlone R)
    (hparse : ∀ t ∈ c.templates, (R.parse? t.name t.content).isSome) :
    ∃ store, compileAll R R.empty c.templates = .ok store ∧ InStep ⟨c, store⟩ := by
  obtain ⟨store, hstore, hbodies⟩ :=
    exists_compileAll laws (allAlone_empty laws) halone c.nodup_names hparse
  refine ⟨store, hstore, hparse, halone, fun name => ?_⟩
  exact (hbodies name).trans (by rw [laws.body_empty, Option.or_none]; rfl)

theorem inStep_of_ofCatalog (laws : R.Lawful) {c : Catalog} {e : Engine R}
    (h : ofCatalog c R = .ok e) (halone : ∀ t ∈ c.templates, t.StandsAlone R) : e.InStep := by
  obtain ⟨-, rfl, hcompiled⟩ := ofCatalog_spec h
  obtain ⟨store, hstore, hstep⟩ :=
    exists_inStep laws halone (isSome_parse?_of_compileAll laws hcompiled)
  obtain rfl := Except.ok.inj (hcompiled.symm.trans hstore)
  exact hstep

theorem standsAlone_markup (t : Template) : t.StandsAlone Markup.renderer := fun _ _ => trivial

theorem exists_ofCatalog {c : Catalog} (hcoverage : c.checkCoverage = .ok ())
    (hparse : ∀ t ∈ c.templates, (Markup.parse? t.content).isSome) : ∃ e, ofCatalog c = .ok e := by
  obtain ⟨store, hstore, -⟩ :=
    exists_inStep Markup.renderer_lawful (fun t _ => standsAlone_markup t) hparse
  refine ⟨⟨c, store⟩, ?_⟩
  unfold ofCatalog
  rw [hcoverage, hstore]
  rfl

theorem body?_of_ofCatalog {c : Catalog} {e : Engine} (h : ofCatalog c = .ok e) {t : Template}
    (ht : t ∈ c.templates) : e.body? t.name = Markup.parse? t.content := by
  have hstep := inStep_of_ofCatalog Markup.renderer_lawful h fun t _ => standsAlone_markup t
  rw [hstep.body, (ofCatalog_spec h).2.1, Catalog.get?_of_mem ht]
  rfl

end Engine

end Scriptwright
