import Scriptwright.GenerationError
import Scriptwright.Template.Builtin
import Scriptwright.Text.Ascending

/-!
Templates by name. A catalog lists its templates in ascending order of their names, so that of
several templates that serve the same purpose the one with the smallest name is chosen.
-/
namespace Scriptwright

namespace Template

def Ascending (ts : List Template) : Prop := ts.Pairwise fun a b => a.name < b.name

/-- Puts a template at its place, instead of one of the same name. -/
def place (t : Template) : List Template → List Template
  | [] => [t]
  | u :: us =>
    if t.name < u.name then t :: u :: us
    else if t.name = u.name then t :: us
    else u :: place t us

def exchange (t : Template) : List Template → List Template × Option Template
  | [] => ([t], none)
  | u :: us =>
    if t.name < u.name then (t :: u :: us, none)
    else if t.name = u.name then (t :: us, some u)
    else
      let (rest, displaced) := exchange t us
      (u :: rest, displaced)

theorem exchange_fst (t : Template) (ts : List Template) : (exchange t ts).1 = place t ts := by
  induction ts with
  | nil => rfl
  | cons u us ih =>
    unfold exchange place
    split
    · rfl
    · split
      · rfl
      · exact congrArg (u :: ·) ih

theorem name_of_mem_place {t u : Template} {ts : List Template} (h : u ∈ place t ts) :
    u = t ∨ u ∈ ts := by
  induction ts with
  | nil => simpa [place] using h
  | cons v vs ih =>
    unfold place at h
    split at h
    · simpa using h
    · split at h
      · rcases List.mem_cons.mp h with h | h
        · exact .inl h
        · exact .inr (List.mem_cons_of_mem v h)
      · rcases List.mem_cons.mp h with h | h
        · exact .inr (h ▸ List.mem_cons_self)
        · rcases ih h with h | h
          · exact .inl h
          · exact .inr (List.mem_cons_of_mem v h)

theorem Ascending.place {ts : List Template} (h : Ascending ts) (t : Template) :
    Ascending (Template.place t ts) := by
  induction ts with
  | nil => simp [Template.place, Ascending]
  | cons u us ih =>
    have hu := List.pairwise_cons.mp h
    unfold Template.place
    split
    · rename_i lt
      refine List.pairwise_cons.mpr ⟨fun v hv => ?_, h⟩
      rcases List.mem_cons.mp hv with rfl | hv
      · exact lt
      · exact String.lt_trans lt (hu.1 v hv)
    · rename_i notLt
      split
      · rename_i same
        exact List.pairwise_cons.mpr ⟨fun v hv => same ▸ hu.1 v hv, hu.2⟩
      · rename_i different
        refine List.pairwise_cons.mpr ⟨fun v hv => ?_, ih hu.2⟩
        rcases name_of_mem_place hv with rfl | hv
        · exact Std.lt_of_le_of_ne (String.not_lt.mp notLt) (Ne.symm different)
        · exact hu.1 v hv

theorem find?_place (t : Template) (ts : List Template) (name : String) (h : Ascending ts) :
    (place t ts).find? (·.name = name) =
      if t.name = name then some t else ts.find? (·.name = name) := by
  induction ts with
  | nil => by_cases hn : t.name = name <;> simp [place, List.find?, hn]
  | cons u us ih =>
    have hu := List.pairwise_cons.mp h
    unfold place
    split
    · by_cases hn : t.name = name <;> simp [List.find?, hn]
    · split
      · rename_i same
        by_cases hn : t.name = name
        · simp [List.find?, hn]
        · simp [List.find?, hn, ← same]
      · rename_i different
        by_cases hn : u.name = name
        · have ht : t.name ≠ name := fun e => different (e.trans hn.symm)
          simp [List.find?, hn, ht]
        · simp [List.find?, hn, ih hu.2]

theorem Ascending.exchange {ts : List Template} (h : Ascending ts) (t : Template) :
    Ascending (Template.exchange t ts).1 := by
  rw [exchange_fst]
  exact h.place t

theorem exchange_snd {ts : List Template} (h : Ascending ts) (t : Template) :
    (exchange t ts).2 = ts.find? (·.name = t.name) := by
  induction ts with
  | nil => rfl
  | cons u us ih =>
    have hu := List.pairwise_cons.mp h
    unfold exchange
    split
    · rename_i lt
      refine (List.find?_eq_none.mpr fun v hv => ?_).symm
      have hlater : t.name < v.name := by
        rcases List.mem_cons.mp hv with rfl | hv
        · exact lt
        · exact String.lt_trans lt (hu.1 v hv)
      simpa using fun e : v.name = t.name => String.lt_irrefl t.name (e ▸ hlater)
    · split
      · rename_i same
        simp [same]
      · rename_i different
        rw [List.find?_cons_of_neg (by simpa using Ne.symm different)]
        exact ih hu.2

end Template

structure Catalog where
  templates : List Template
  ascending : Template.Ascending templates

namespace Catalog

def empty : Catalog := ⟨[], List.Pairwise.nil⟩

def insert (c : Catalog) (t : Template) : Catalog :=
  ⟨Template.place t c.templates, c.ascending.place t⟩

def exchange (c : Catalog) (t : Template) : Catalog × Option Template :=
  let placed := Template.exchange t c.templates
  (⟨placed.1, c.ascending.exchange t⟩, placed.2)

def insertAll (c : Catalog) (ts : List Template) : Catalog := ts.foldl insert c

def builtin : Catalog := empty.insertAll Template.Builtin.all

def get? (c : Catalog) (name : String) : Option Template := c.templates.find? (·.name = name)

theorem get?_insert (c : Catalog) (t : Template) (name : String) :
    (c.insert t).get? name = if t.name = name then some t else c.get? name :=
  Template.find?_place t c.templates name c.ascending

theorem exchange_eq (c : Catalog) (t : Template) : c.exchange t = (c.insert t, c.get? t.name) := by
  have hcatalog : (c.exchange t).1 = c.insert t := by
    unfold exchange insert
    simp only [Template.exchange_fst]
  have hdisplaced : (c.exchange t).2 = c.get? t.name := Template.exchange_snd c.ascending t
  rw [← hcatalog, ← hdisplaced]

def names (c : Catalog) : List String := c.templates.map (·.name)

def size (c : Catalog) : Nat := c.templates.length

/-- The template with the smallest name for a language and a category. -/
def find? (c : Catalog) (language : Language) (category : String) : Option Template :=
  c.templates.find? fun t => t.language = language && t.category = category

/-- The template for a category, or else the basic one of the language. -/
def select (c : Catalog) (language : Language) (category : String) :
    Except GenerationError Template :=
  match c.find? language category with
  | some t => .ok t
  | none =>
    match c.find? language Category.basic with
    | some t => .ok t
    | none => .error (.templateMissing language category)

def uncovered (c : Catalog) : List Language :=
  Language.all.filter fun l => (c.find? l Category.basic).isNone

/-- Every language needs a basic template, for then a selection always finds one. -/
def checkCoverage (c : Catalog) : Except GenerationError Unit :=
  match c.uncovered with
  | [] => .ok ()
  | missing =>
    .error (.unusableCatalog ("no basic template for: " ++
      Text.joinWith ", " (missing.map (·.tag))))

def languages (c : Catalog) : List Language :=
  Language.all.filter fun l => c.templates.any (·.language = l)

def categories (c : Catalog) : List String := Text.ascending (c.templates.map (·.category))

def compliantCount (c : Catalog) : Nat := c.templates.countP (·.compliant)

end Catalog

end Scriptwright
