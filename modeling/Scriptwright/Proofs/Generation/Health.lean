import Mathlib.Data.List.Basic
import Mathlib.Data.List.Induction
import Scriptwright.Health

/-!
What a health report says about its components. The status is the worst of all components, in
whatever order they come. The details keep one component for each name, the last one, so the status
may be worse than everything that is left there.
-/
namespace Scriptwright

namespace HealthStatus

variable {s t : HealthStatus} {statuses others : List HealthStatus}

def level : HealthStatus → Nat
  | .healthy => 0
  | .degraded => 1
  | .unhealthy => 2

theorem level_injective (h : s.level = t.level) : s = t := by
  cases s <;> cases t <;> first | rfl | cases h

@[simp] theorem level_combine (s t : HealthStatus) :
    (s.combine t).level = max s.level t.level := by
  cases s <;> cases t <;> rfl

theorem combine_eq_or (s t : HealthStatus) : s.combine t = s ∨ s.combine t = t := by
  cases s <;> cases t <;> simp [combine]

theorem exitCode_ne_zero_iff : s.exitCode ≠ 0 ↔ s = .unhealthy := by
  cases s <;> simp [exitCode]

/-- None of the statuses is worse, and it is one of them if there are any. -/
structure IsWorstOf (s : HealthStatus) (statuses : List HealthStatus) : Prop where
  bounds : ∀ t ∈ statuses, t.level ≤ s.level
  reached : s ∈ statuses ∨ statuses = [] ∧ s = .healthy

theorem IsWorstOf.unique (hs : s.IsWorstOf statuses) (ht : t.IsWorstOf statuses) : s = t := by
  rcases hs.reached with hmem | ⟨rfl, rfl⟩
  · rcases ht.reached with hmem' | ⟨rfl, -⟩
    · apply level_injective
      have hle := ht.bounds s hmem
      have hge := hs.bounds t hmem'
      omega
    · cases hmem
  · rcases ht.reached with hmem' | ⟨-, rfl⟩
    · cases hmem'
    · rfl

theorem IsWorstOf.perm (h : s.IsWorstOf statuses) (hperm : statuses.Perm others) :
    s.IsWorstOf others where
  bounds := by
    intro t ht
    exact h.bounds t (hperm.mem_iff.mpr ht)
  reached := by
    rcases h.reached with hmem | ⟨rfl, rfl⟩
    · exact .inl (hperm.mem_iff.mp hmem)
    · exact .inr ⟨hperm.nil_eq.symm, rfl⟩

theorem IsWorstOf.eq_unhealthy_iff (h : s.IsWorstOf statuses) :
    s = .unhealthy ↔ .unhealthy ∈ statuses := by
  constructor
  · rintro rfl
    rcases h.reached with hmem | ⟨-, heq⟩
    · exact hmem
    · cases heq
  · intro hmem
    have hle := h.bounds _ hmem
    cases s <;> simp [level] at hle ⊢

theorem isWorstOf_foldl (s : HealthStatus) (statuses : List HealthStatus) :
    (statuses.foldl combine s).IsWorstOf (s :: statuses) := by
  induction statuses generalizing s with
  | nil => exact ⟨by simp, .inl List.mem_cons_self⟩
  | cons t ts ih =>
    obtain ⟨hbounds, hreached⟩ := ih (s.combine t)
    rw [List.foldl_cons]
    have hstart := hbounds _ List.mem_cons_self
    rw [level_combine] at hstart
    constructor
    · intro u hu
      simp only [List.mem_cons] at hu
      rcases hu with rfl | rfl | hu
      · omega
      · omega
      · exact hbounds u (List.mem_cons_of_mem _ hu)
    · left
      rcases hreached with hmem | ⟨hnil, -⟩
      · rcases List.mem_cons.mp hmem with heq | hmem
        · rw [heq]
          rcases combine_eq_or s t with h | h <;> simp [h]
        · simp [hmem]
      · cases hnil

theorem IsWorstOf.of_healthy_cons (h : s.IsWorstOf (.healthy :: statuses)) :
    s.IsWorstOf statuses where
  bounds := by
    intro t ht
    exact h.bounds t (List.mem_cons_of_mem _ ht)
  reached := by
    rcases h.reached with hmem | ⟨hnil, -⟩
    · rcases List.mem_cons.mp hmem with rfl | hmem
      · cases statuses with
        | nil => exact .inr ⟨rfl, rfl⟩
        | cons t ts =>
          -- nothing is worse than healthy, so all the others are healthy as well
          have hle := h.bounds t (by simp)
          have ht : t = .healthy := level_injective (Nat.le_zero.mp hle)
          exact .inl (by simp [ht])
      · exact .inl hmem
    · cases hnil

end HealthStatus

namespace HealthReport

section Entries

variable {α : Type} {name : String} {a : α} {entry : String × α} {entries : List (String × α)}

/-- Every name comes once, and the names ascend. -/
def Ascending (entries : List (String × α)) : Prop := entries.Pairwise fun e f => e.1 < f.1

theorem mem_place_iff (h : Ascending entries) :
    entry ∈ place name a entries ↔ entry = (name, a) ∨ entry ∈ entries ∧ entry.1 ≠ name := by
  induction entries with
  | nil => simp [place]
  | cons head rest ih =>
    obtain ⟨n, b⟩ := head
    obtain ⟨hhead, hrest⟩ := List.pairwise_cons.mp h
    unfold place
    split
    · rename_i hlt
      have hother : ∀ e ∈ (n, b) :: rest, e.1 ≠ name := by
        rintro e he rfl
        rcases List.mem_cons.mp he with rfl | he
        · exact String.lt_irrefl _ hlt
        · exact String.lt_irrefl _ (String.lt_trans hlt (hhead e he))
      rw [List.mem_cons]
      exact or_congr_right (iff_self_and.mpr (hother entry))
    · split
      · rename_i heq
        subst heq
        have hother : ∀ e ∈ rest, e.1 ≠ name := by
          rintro e he rfl
          exact String.lt_irrefl _ (hhead e he)
        simp only [List.mem_cons]
        constructor
        · rintro (rfl | hmem)
          · exact .inl rfl
          · exact .inr ⟨.inr hmem, hother entry hmem⟩
        · rintro (rfl | ⟨rfl | hmem, hne⟩)
          · exact .inl rfl
          · exact absurd rfl hne
          · exact .inr hmem
      · rename_i hne
        rw [List.mem_cons, ih hrest, List.mem_cons]
        constructor
        · rintro (rfl | rfl | ⟨hmem, hother⟩)
          · exact .inr ⟨.inl rfl, Ne.symm hne⟩
          · exact .inl rfl
          · exact .inr ⟨.inr hmem, hother⟩
        · rintro (rfl | ⟨rfl | hmem, hother⟩)
          · exact .inr (.inl rfl)
          · exact .inl rfl
          · exact .inr (.inr ⟨hmem, hother⟩)

theorem Ascending.place (h : Ascending entries) (name : String) (a : α) :
    Ascending (HealthReport.place name a entries) := by
  induction entries with
  | nil => exact List.pairwise_singleton _ _
  | cons head rest ih =>
    obtain ⟨n, b⟩ := head
    obtain ⟨hhead, hrest⟩ := List.pairwise_cons.mp h
    unfold HealthReport.place
    split
    · rename_i hlt
      apply List.pairwise_cons.mpr
      refine ⟨fun e he => ?_, h⟩
      rcases List.mem_cons.mp he with rfl | he
      · exact hlt
      · exact String.lt_trans hlt (hhead e he)
    · split
      · rename_i heq
        subst heq
        exact List.pairwise_cons.mpr ⟨hhead, hrest⟩
      · rename_i hnot hne
        apply List.pairwise_cons.mpr
        refine ⟨fun e he => ?_, ih hrest⟩
        rcases (mem_place_iff hrest).mp he with rfl | ⟨he, -⟩
        · exact Std.lt_of_le_of_ne (String.not_lt.mp hnot) (Ne.symm hne)
        · exact hhead e he

end Entries

variable {components : List ComponentHealth} {c d : ComponentHealth}

/-- A component that no later one has the name of. -/
def IsLastOfName (components : List ComponentHealth) (c : ComponentHealth) : Prop :=
  ∃ before after, components = before ++ c :: after ∧
    ∀ later ∈ after, later.component ≠ c.component

theorem IsLastOfName.mem (h : IsLastOfName components c) : c ∈ components := by
  obtain ⟨before, after, rfl, -⟩ := h
  simp

theorem isLastOfName_append_singleton :
    IsLastOfName (components ++ [d]) c ↔
      c = d ∨ IsLastOfName components c ∧ c.component ≠ d.component := by
  constructor
  · rintro ⟨before, after, hsplit, hafter⟩
    rcases List.eq_nil_or_concat' after with rfl | ⟨front, last, rfl⟩
    · obtain ⟨-, hlast⟩ := List.append_inj' hsplit rfl
      exact .inl (List.singleton_inj.mp hlast).symm
    · rw [← List.cons_append, ← List.append_assoc] at hsplit
      obtain ⟨rfl, hlast⟩ := List.append_inj' hsplit rfl
      obtain rfl := List.singleton_inj.mp hlast
      refine .inr ⟨⟨before, front, rfl, ?_⟩, ?_⟩
      · intro later hlater
        exact hafter later (by simp [hlater])
      · exact (hafter d (by simp)).symm
  · rintro (rfl | ⟨⟨before, after, rfl, hafter⟩, hne⟩)
    · exact ⟨components, [], rfl, by simp⟩
    · refine ⟨before, after ++ [d], by simp, ?_⟩
      intro later hlater
      rcases List.mem_append.mp hlater with hlater | hlater
      · exact hafter later hlater
      · rw [List.mem_singleton.mp hlater]
        exact hne.symm

theorem isLastOfName_of_nodup (h : (components.map (·.component)).Nodup) (hc : c ∈ components) :
    IsLastOfName components c := by
  obtain ⟨before, after, rfl⟩ := List.append_of_mem hc
  refine ⟨before, after, rfl, ?_⟩
  intro later hlater heq
  rw [List.map_append, List.map_cons] at h
  apply (List.nodup_cons.mp (List.nodup_append.mp h).2.1).1
  rw [← heq]
  exact List.mem_map_of_mem hlater

/-- The details have under each name the last component of that name. -/
theorem details_spec (now : Moment) (components : List ComponentHealth) :
    Ascending (ofComponents now components).details ∧
      ∀ name c, (name, c) ∈ (ofComponents now components).details ↔
        c.component = name ∧ IsLastOfName components c := by
  induction components using List.reverseRecOn with
  | nil => exact ⟨List.Pairwise.nil, by simp [ofComponents, IsLastOfName]⟩
  | append_singleton cs d ih =>
    obtain ⟨hascending, hmem⟩ := ih
    have hstep : (ofComponents now (cs ++ [d])).details =
        place d.component d (ofComponents now cs).details := by
      simp [ofComponents]
    rw [hstep]
    refine ⟨hascending.place _ _, fun name c => ?_⟩
    rw [mem_place_iff hascending, hmem, isLastOfName_append_singleton, Prod.mk.injEq]
    constructor
    · rintro (⟨rfl, rfl⟩ | ⟨⟨rfl, hlast⟩, hne⟩)
      · exact ⟨rfl, .inl rfl⟩
      · exact ⟨rfl, .inr ⟨hlast, hne⟩⟩
    · rintro ⟨rfl, rfl | ⟨hlast, hne⟩⟩
      · exact .inl ⟨rfl, rfl⟩
      · exact .inr ⟨⟨rfl, hlast⟩, hne⟩

theorem mem_details_statuses_iff (now : Moment) {s : HealthStatus} :
    s ∈ (ofComponents now components).details.map (·.2.status) ↔
      ∃ c, IsLastOfName components c ∧ c.status = s := by
  rw [List.mem_map]
  constructor
  · rintro ⟨⟨name, c⟩, hmem, rfl⟩
    exact ⟨c, (((details_spec now components).2 name c).mp hmem).2, rfl⟩
  · rintro ⟨c, hlast, rfl⟩
    exact ⟨(c.component, c), ((details_spec now components).2 _ c).mpr ⟨rfl, hlast⟩, rfl⟩

theorem status_isWorstOf (now : Moment) (components : List ComponentHealth) :
    (ofComponents now components).status.IsWorstOf (components.map (·.status)) := by
  have hfold := HealthStatus.isWorstOf_foldl .healthy (components.map (·.status))
  rw [List.foldl_map] at hfold
  exact hfold.of_healthy_cons

theorem details_eq_nil_iff (now : Moment) (components : List ComponentHealth) :
    (ofComponents now components).details = [] ↔ components = [] := by
  constructor
  · intro hnil
    rcases List.eq_nil_or_concat' components with rfl | ⟨front, last, rfl⟩
    · rfl
    · have hmem := ((details_spec now (front ++ [last])).2 last.component last).mpr
        ⟨rfl, isLastOfName_append_singleton.mpr (.inl rfl)⟩
      rw [hnil] at hmem
      cases hmem
  · rintro rfl
    rfl

/-- The status is the worst of what the details keep if a component as bad as that is kept. -/
theorem isWorstOf_details_iff (now : Moment) (components : List ComponentHealth) :
    (ofComponents now components).status.IsWorstOf
        ((ofComponents now components).details.map (·.2.status)) ↔
      components = [] ∨
        ∃ c, IsLastOfName components c ∧ c.status = (ofComponents now components).status := by
  have hworst := status_isWorstOf now components
  rw [← mem_details_statuses_iff now]
  constructor
  · intro h
    rcases h.reached with hmem | ⟨hnil, -⟩
    · exact .inr hmem
    · exact .inl ((details_eq_nil_iff now components).mp (List.map_eq_nil_iff.mp hnil))
  · intro h
    constructor
    · intro t ht
      obtain ⟨c, hlast, rfl⟩ := (mem_details_statuses_iff now).mp ht
      exact hworst.bounds _ (List.mem_map_of_mem hlast.mem)
    · rcases h with rfl | hmem
      · exact .inr ⟨rfl, rfl⟩
      · exact .inl hmem

/-- A report has the worst status of its components, for any order of them, and an exit code that
tells whether one of them is unhealthy. The details keep the last component of each name; they bear
the status out unless every component of that status gave way to a later one of its name. -/
theorem ofComponents_status_worst (now : Moment) (components : List ComponentHealth) :
    let r := ofComponents now components
    r.status.IsWorstOf (components.map (·.status)) ∧
    (∀ later reordered, reordered.Perm components →
      (ofComponents later reordered).status = r.status) ∧
    (r.status.exitCode ≠ 0 ↔ ∃ c ∈ components, c.status = .unhealthy) ∧
    (∀ name c, (name, c) ∈ r.details ↔ c.component = name ∧ IsLastOfName components c) ∧
    (r.status.IsWorstOf (r.details.map (·.2.status)) ↔
      components = [] ∨ ∃ c, IsLastOfName components c ∧ c.status = r.status) ∧
    ((components.map (·.component)).Nodup →
      r.status.IsWorstOf (r.details.map (·.2.status)) ∧
      (r.status.exitCode ≠ 0 ↔ ∃ entry ∈ r.details, entry.2.status = .unhealthy)) := by
  intro r
  have hworst : r.status.IsWorstOf (components.map (·.status)) := status_isWorstOf now components
  refine ⟨hworst, ?_, ?_, (details_spec now components).2, isWorstOf_details_iff now components, ?_⟩
  · intro later reordered hperm
    have hother := status_isWorstOf later reordered
    exact (hother.perm (hperm.map _)).unique hworst
  · rw [HealthStatus.exitCode_ne_zero_iff, hworst.eq_unhealthy_iff, List.mem_map]
  · intro hnodup
    have hkept : r.status.IsWorstOf (r.details.map (·.2.status)) := by
      apply (isWorstOf_details_iff now components).mpr
      rcases hworst.reached with hmem | ⟨hnil, -⟩
      · obtain ⟨c, hc, hstatus⟩ := List.mem_map.mp hmem
        exact .inr ⟨c, isLastOfName_of_nodup hnodup hc, hstatus⟩
      · exact .inl (List.map_eq_nil_iff.mp hnil)
    refine ⟨hkept, ?_⟩
    rw [HealthStatus.exitCode_ne_zero_iff, hkept.eq_unhealthy_iff, List.mem_map]

def analyzerWell : ComponentHealth := .healthy ⟨0, 0⟩ "analyzer" none

def validatorLame : ComponentHealth := .degraded ⟨0, 0⟩ "validator" "python3 missing" none

/-- One component that works and one that works in part, in both orders. -/
theorem lame_validator_degrades :
    let r := ofComponents ⟨0, 0⟩ [analyzerWell, validatorLame]
    [validatorLame, analyzerWell].Perm [analyzerWell, validatorLame] ∧
    ([analyzerWell, validatorLame].map (·.component)).Nodup ∧
    r.status = .degraded ∧
    (ofComponents ⟨7, 0⟩ [validatorLame, analyzerWell]).status = r.status ∧
    r.status.IsWorstOf (r.details.map (·.2.status)) ∧
    (r.status.exitCode ≠ 0 ↔ ∃ entry ∈ r.details, entry.2.status = .unhealthy) := by
  have hperm : [validatorLame, analyzerWell].Perm [analyzerWell, validatorLame] := .swap _ _ _
  have hnodup : ([analyzerWell, validatorLame].map (·.component)).Nodup := by decide
  obtain ⟨-, horder, -, -, -, hkept⟩ :=
    ofComponents_status_worst ⟨0, 0⟩ [analyzerWell, validatorLame]
  exact ⟨hperm, hnodup, rfl, horder ⟨7, 0⟩ _ hperm, hkept hnodup⟩

def storeLost : ComponentHealth := .unhealthy ⟨0, 0⟩ "store" "gone" none

def storeBack : ComponentHealth := .healthy ⟨0, 0⟩ "store" none

/-- A component that comes back under its name leaves a status that nothing in the details bears
out. -/
theorem recovered_store_unhealthy :
    let r := ofComponents ⟨0, 0⟩ [storeLost, storeBack]
    r.status = .unhealthy ∧ r.status.exitCode ≠ 0 ∧
    r.details.map (fun entry => (entry.1, entry.2.status)) = [("store", .healthy)] ∧
    ¬ r.status.IsWorstOf (r.details.map (·.2.status)) ∧
    ¬ ∃ entry ∈ r.details, entry.2.status = .unhealthy := by
  intro r
  have hkept : r.details = [("store", storeBack)] := rfl
  rw [hkept]
  refine ⟨rfl, by decide, rfl, ?_, by simp [storeBack, ComponentHealth.healthy]⟩
  intro h
  rcases h.reached with hmem | ⟨hnil, -⟩
  · cases List.mem_singleton.mp hmem
  · cases hnil

end HealthReport

end Scriptwright
