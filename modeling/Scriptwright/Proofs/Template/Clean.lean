import Scriptwright.Proofs.Template.Standard
import Scriptwright.Proofs.Template.WellKinded
import Scriptwright.Proofs.Validation.Security

/-!
Scripts that nothing is to be said against. What the built-in templates make of standard values has
the structure that scripts in its language should have, like all that they make of values of the
declared kinds, and no text of its form holds a window of a security rule.
-/
namespace Scriptwright.Template

open Markup

/-- The search of a text with a line feed behind it ends with nothing found and nothing pending. -/
def passes (language : Language) (form : Form) : Bool :=
  (form.seq (.exactly ['\n'])).exits (Security.windows language) [[]] = some [[]]

variable {t : Template} {language : Language} {form : Form} {text : List Char}

theorem scan_of_passes (h : passes language form = true) (htext : form.Admits text) :
    Security.scan (String.ofList text) language = [] := by
  have hended : (form.seq (.exactly ['\n'])).Admits (text ++ ['\n']) :=
    ⟨text, ['\n'], rfl, htext, Form.admits_exactly ['\n']⟩
  obtain ⟨last, hlast, hscan⟩ :=
    Form.exists_scan_of_exits (of_decide_eq_true h) hended List.mem_cons_self
  rw [List.mem_singleton.mp hlast] at hscan
  have hwindows : [] ∉ Security.windows language := by
    cases language <;> decide
  have havoids := Window.avoids_of_scan hscan hwindows List.not_mem_nil
  refine Security.scan_eq_nil ?_
  rw [String.toList_ofList]
  exact havoids.absent

namespace Builtin

theorem standard_passes {t : Template} (h : t ∈ all) :
    (t.outline?.bind (formAll? (slots (standardOptions t.language) t.category))).any
      (passes t.language) := by
  refine forall_all (P := fun t =>
    (t.outline?.bind (formAll? (slots (standardOptions t.language) t.category))).any
      (passes t.language)) ?_ ?_ ?_ ?_ ?_ ?_ ?_ h <;>
  · rw [outline?_of_source rfl (by repeat constructor)]
    decide +kernel

theorem exists_clean {e : Engine} (he : Engine.ofCatalog Catalog.builtin = .ok e)
    (now : Moment) {language : Language} {a : Analysis} (ha : a.requirements.AreStandard)
    {t : Template}
    (ht : Catalog.builtin.select language (Category.ofIntent a.intent.primary) = .ok t) :
    ∃ r, e.render now language a [] = .ok r ∧ r.template = t.name ∧ r.code ≠ "" ∧
      r.findings.errors = [] ∧ r.findings.warnings = [] ∧ Security.scan r.code language = [] := by
  obtain ⟨-, rfl, -⟩ := Catalog.select_spec ht
  have hbuiltin := mem_of_select ht
  obtain ⟨form, hform, hpasses⟩ := (Option.any_eq_true _ _).mp (standard_passes hbuiltin)
  have hhold := standard_hold hbuiltin (suits_of_select ht) ha now t.language
  obtain ⟨parts, text, hparts, htext, hwrite, hrender⟩ := exists_render he ht hform hhold
  have hlint := lint_of_write hbuiltin (suits_of_select ht) t.wellKinded_nil hparts hwrite
  exact ⟨_, hrender, rfl, ne_empty_of_lint hlint, by rw [hlint], by rw [hlint],
    scan_of_passes hpasses htext⟩

end Builtin

end Scriptwright.Template
