import Mathlib.Data.List.Induction
import Scriptwright.Proofs.Template.Coverage
import Scriptwright.Proofs.Text.Order
import Scriptwright.Proofs.Text.Runs

/-!
Catalogs and the insertions they come from. What a catalog answers depends on the last template
inserted under each name and on nothing else, neither on what stood there before nor on the order
of insertions under different names.
-/
namespace Scriptwright.Catalog

variable {c d : Catalog} {ts ts' : List Template} {t u : Template}

/-- The last template inserted under a name, or else the one that the catalog had. -/
def latest? (c : Catalog) (ts : List Template) (name : String) : Option Template :=
  (ts.filter (·.name = name)).getLast?.or (c.get? name)

theorem latest?_append_singleton (c : Catalog) (ts : List Template) (t : Template)
    (name : String) :
    c.latest? (ts ++ [t]) name = if t.name = name then some t else c.latest? ts name := by
  unfold latest?
  by_cases h : t.name = name <;> simp [h]

theorem insertAll_append_singleton (c : Catalog) (ts : List Template) (t : Template) :
    c.insertAll (ts ++ [t]) = (c.insertAll ts).insert t := by
  simp [insertAll]

theorem get?_insertAll (c : Catalog) (ts : List Template) (name : String) :
    (c.insertAll ts).get? name = c.latest? ts name := by
  induction ts using List.reverseRecOn with
  | nil => simp [insertAll, latest?]
  | append_singleton ts t ih =>
    rw [insertAll_append_singleton, get?_insert, latest?_append_singleton, ih]

theorem mem_templates_iff : t ∈ c.templates ↔ c.get? t.name = some t :=
  ⟨get?_of_mem, List.mem_of_find?_eq_some⟩

theorem name_asymm (h : t.name < u.name) : ¬ u.name < t.name := fun h' =>
  String.lt_irrefl t.name (String.lt_trans h h')

theorem ext_get? (h : ∀ name, c.get? name = d.get? name) : c = d := by
  have hnodup : ∀ c : Catalog, c.templates.Nodup := fun c => List.Nodup.of_map _ c.nodup_names
  have hmem : ∀ t, t ∈ c.templates ↔ t ∈ d.templates := fun t => by
    rw [mem_templates_iff, mem_templates_iff, h]
  have hperm : c.templates.Perm d.templates :=
    (List.perm_ext_iff_of_nodup (hnodup c) (hnodup d)).mpr hmem
  have hlists : c.templates = d.templates :=
    hperm.eq_of_pairwise (fun a b _ _ hab hba => absurd hba (name_asymm hab)) c.ascending d.ascending
  cases c
  cases d
  subst hlists
  rfl

theorem find?_eq_some_iff {l : Language} {category : String} :
    c.find? l category = some t ↔
      (t ∈ c.templates ∧ t.language = l ∧ t.category = category) ∧
        ∀ u ∈ c.templates, u.language = l → u.category = category → u = t ∨ t.name < u.name := by
  unfold find?
  rw [Text.find?_eq_some_iff_of_pairwise c.ascending fun a b => name_asymm]
  simp only [Bool.and_eq_true, decide_eq_true_eq, and_imp, and_assoc]

theorem find?_eq_none_iff {l : Language} {category : String} :
    c.find? l category = none ↔
      ∀ t ∈ c.templates, t.language = l → t.category ≠ category := by
  unfold find?
  simp [List.find?_eq_none]

/-- After the insertions, the template is the one of its name, and it is for this purpose. -/
structure Offers (c : Catalog) (ts : List Template) (l : Language) (category : String)
    (t : Template) : Prop where
  current : c.latest? ts t.name = some t
  language : t.language = l
  category : t.category = category

theorem offers_iff {l : Language} {category : String} :
    c.Offers ts l category t ↔
      t ∈ (c.insertAll ts).templates ∧ t.language = l ∧ t.category = category := by
  rw [mem_templates_iff, get?_insertAll]
  exact ⟨fun ⟨h, hl, hcategory⟩ => ⟨h, hl, hcategory⟩, fun ⟨h, hl, hcategory⟩ => ⟨h, hl, hcategory⟩⟩

/-- For every name the two runs insert the same templates in the same order. -/
def SameByName (ts ts' : List Template) : Prop :=
  ∀ name, ts.filter (·.name = name) = ts'.filter (·.name = name)

theorem sameByName_swap (made later : List Template) (h : t.name ≠ u.name) :
    SameByName (made ++ t :: u :: later) (made ++ u :: t :: later) := by
  intro name
  rw [List.filter_append, List.filter_append]
  congr 1
  by_cases ht : t.name = name
  · have hu : u.name ≠ name := fun hu => h (ht.trans hu.symm)
    simp [ht, hu]
  · simp [List.filter_cons, ht]

theorem insertAll_of_sameByName (c : Catalog) (h : SameByName ts ts') :
    c.insertAll ts' = c.insertAll ts := by
  apply ext_get?
  intro name
  rw [get?_insertAll, get?_insertAll, latest?, latest?, h name]

variable (c ts)

/-- After any run of insertions, a catalog has under each name the template inserted last, and the
next insertion returns what it displaces. It finds for a purpose the current template with the
smallest name in the order of bytes, selects it, or else the basic one, and does not show in which
order templates of different names came in. -/
theorem insertAll_refines_history :
    (∀ name, (c.insertAll ts).get? name = c.latest? ts name) ∧
    (∀ t, (c.insertAll ts).exchange t = (c.insertAll (ts ++ [t]), c.latest? ts t.name)) ∧
    (∀ l category t, (c.insertAll ts).find? l category = some t ↔
      c.Offers ts l category t ∧
        ∀ u, c.Offers ts l category u → u = t ∨ Text.BytesBefore t.name u.name) ∧
    (∀ l category, (c.insertAll ts).find? l category = none ↔
      ∀ t, ¬ c.Offers ts l category t) ∧
    (∀ l category, (c.insertAll ts).select l category =
      (((c.insertAll ts).find? l category).or ((c.insertAll ts).find? l Category.basic)).elim
        (.error (.templateMissing l category)) .ok) ∧
    ∀ ts', SameByName ts ts' → c.insertAll ts' = c.insertAll ts := by
  refine ⟨get?_insertAll c ts, fun t => ?_, fun l category t => ?_, fun l category => ?_,
    fun l category => ?_, fun ts' => insertAll_of_sameByName c⟩
  · rw [exchange_eq, insertAll_append_singleton, get?_insertAll]
  · simp only [find?_eq_some_iff, offers_iff, Text.lt_iff_bytesBefore, and_imp]
  · simp only [find?_eq_none_iff, offers_iff, not_and]
  · unfold select
    cases (c.insertAll ts).find? l category with
    | some t => rfl
    | none => cases (c.insertAll ts).find? l Category.basic <;> rfl

def alphaWeb : Template := Engine.greeting "alpha" .bash Category.web

def zetaWeb : Template := Engine.greeting "zeta" .bash Category.web

def alphaPython : Template := Engine.greeting "alpha" .python Category.web

/-- The smallest name is taken until its template moves to another language; that the other name
came in between does not matter. -/
theorem alpha_moves_away :
    (empty.insertAll [alphaWeb, zetaWeb]).find? .bash Category.web = some alphaWeb ∧
    (empty.insertAll [alphaWeb, zetaWeb]).exchange alphaPython =
      (empty.insertAll [alphaWeb, zetaWeb, alphaPython], some alphaWeb) ∧
    (empty.insertAll [alphaWeb, zetaWeb, alphaPython]).find? .bash Category.web = some zetaWeb ∧
    SameByName [alphaWeb, zetaWeb, alphaPython] [alphaWeb, alphaPython, zetaWeb] ∧
    empty.insertAll [alphaWeb, alphaPython, zetaWeb] =
      empty.insertAll [alphaWeb, zetaWeb, alphaPython] := by
  have hswap : SameByName [alphaWeb, zetaWeb, alphaPython] [alphaWeb, alphaPython, zetaWeb] :=
    sameByName_swap [alphaWeb] [] (by decide)
  obtain ⟨-, hexchange, -⟩ := insertAll_refines_history empty [alphaWeb, zetaWeb]
  obtain ⟨-, -, -, -, -, hsame⟩ := insertAll_refines_history empty [alphaWeb, zetaWeb, alphaPython]
  refine ⟨?_, ?_, ?_, hswap, hsame _ hswap⟩
  · rfl
  · exact hexchange alphaPython
  · rfl

end Scriptwright.Catalog
