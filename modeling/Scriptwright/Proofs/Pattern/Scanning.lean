import Scriptwright.Proofs.Pattern.Greedy
import Scriptwright.Proofs.Text.Runs

/-!
Scanning a text run by run. Where a pattern only ever matches within a maximal run of characters of
one kind, and at most once in each, its matches are what can be picked out of the runs.
-/
namespace Scriptwright

namespace Text

theorem takeWhile_run {inside : Char → Bool} {run rest : List Char}
    (hrun : ∀ c ∈ run, inside c = true) (hrest : rest.head?.any inside = false) :
    (run ++ rest).takeWhile inside = run := by
  rw [List.takeWhile_append_of_pos hrun]
  cases rest with
  | nil => simp
  | cons c rest =>
    have hc : inside c = false := hrest
    simp [hc]

theorem prefix_of_run {inside : Char → Bool} {run rest mid behind : List Char}
    (h : run ++ rest = mid ++ behind) (hrest : rest.head?.any inside = false)
    (hmid : ∀ c ∈ mid, inside c = true) : ∃ tail, run = mid ++ tail ∧ behind = tail ++ rest := by
  rcases List.append_eq_append_iff.mp h with ⟨more, hmore, hbehind⟩ | ⟨tail, htail, hbehind⟩
  · cases more with
    | nil => exact ⟨[], by simpa using hmore.symm, by simpa using hbehind.symm⟩
    | cons c more =>
      have hc : inside c = true := hmid c (by rw [hmore]; simp)
      rw [hbehind] at hrest
      simp [hc] at hrest
  · exact ⟨tail, htail, hbehind⟩

end Text

namespace Place

/-- A maximal run begins at the place, and `rest` follows it. -/
structure StartsRun (p : Place) (inside : Char → Bool) (run rest : List Char) : Prop where
  after : p.after = run ++ rest
  starts : p.before.any inside = false
  chars : ∀ c ∈ run, inside c = true
  stops : rest.head?.any inside = false

theorem StartsRun.past_nil {p : Place} {inside : Char → Bool} {run rest : List Char}
    (h : p.StartsRun inside run rest) : p.past [] (run ++ rest) = p := by
  rw [← h.after, Place.past_nil]

/-- The place is not in the middle of a run. -/
def BetweenRuns (p : Place) (inside : Char → Bool) : Prop :=
  p.before.any inside = false ∨ p.after.head?.any inside = false

def runs (p : Place) (inside : Char → Bool) : List Text.Run :=
  Text.runsFrom inside p.before p.offset p.after

theorem runs_past {inside : Char → Bool} {p : Place} {mid rest : List Char}
    (hafter : p.after = mid ++ rest) (hbefore : p.before.any inside = true)
    (hmid : ∀ c ∈ mid, inside c = true) : p.runs inside = (p.past mid rest).runs inside := by
  induction mid generalizing p with
  | nil =>
    have hrest : rest = p.after := hafter.symm
    rw [hrest, past_nil]
  | cons c mid ih =>
    obtain ⟨hc, hmid⟩ := List.forall_mem_cons.mp hmid
    have hstep := @ih (p.step c (mid ++ rest)) rfl hc hmid
    rw [step_past] at hstep
    rw [← hstep, runs, hafter, List.cons_append, Text.runsFrom, hbefore]
    simp [runs, step]

theorem runs_of_startsRun {inside : Char → Bool} {p : Place} {run rest : List Char}
    (h : p.StartsRun inside run rest) (hne : run ≠ []) :
    p.runs inside = ⟨p.offset, run⟩ :: (p.past run rest).runs inside := by
  obtain ⟨c, run, rfl⟩ := List.exists_cons_of_ne_nil hne
  obtain ⟨hc, hrun⟩ := List.forall_mem_cons.mp h.chars
  have hpast := @runs_past inside (p.step c (run ++ rest)) run rest rfl hc hrun
  have htake : (c :: (run ++ rest)).takeWhile inside = c :: run :=
    Text.takeWhile_run h.chars h.stops
  rw [step_past] at hpast
  rw [← hpast, runs, h.after, List.cons_append, Text.runsFrom, hc, h.starts, htake]
  rfl

end Place

namespace Pattern

/-- The pattern covers nothing from any place in `mid` on. -/
def FailsIn (pattern : Pattern) (p : Place) (mid rest : List Char) : Prop :=
  ∀ xs c ys, mid = xs ++ c :: ys → pattern.covered? (p.past xs (c :: ys ++ rest)) = none

variable {pattern : Pattern} {p : Place} {mid rest : List Char} {inside : Char → Bool}

theorem failsIn_nil : pattern.FailsIn p [] rest := by
  intro xs c ys h
  simp at h

theorem Finds.past (hfails : pattern.FailsIn p mid rest) (hafter : p.after = mid ++ rest)
    {fs : List Found} (hlater : pattern.Finds (p.past mid rest) fs) : pattern.Finds p fs := by
  induction mid generalizing p with
  | nil =>
    have hrest : rest = p.after := hafter.symm
    rwa [hrest, Place.past_nil] at hlater
  | cons c mid ih =>
    have hnone := hfails [] c mid rfl
    have hsame : p.past [] (c :: mid ++ rest) = p := by
      rw [← hafter, Place.past_nil]
    rw [hsame] at hnone
    have hrest : pattern.FailsIn (p.step c (mid ++ rest)) mid rest := by
      intro xs d ys hsplit
      have hfail := hfails (c :: xs) d ys (by rw [hsplit]; rfl)
      rwa [← Place.step_past, ← List.append_assoc, ← hsplit] at hfail
    rw [← Place.step_past] at hlater
    exact .pass hafter hnone (ih hrest rfl hlater)

theorem covered?_outside (hneeds : pattern.needsChar = true)
    (hchars : ∀ {before mid behind}, pattern.Takes before mid behind →
      ∀ c ∈ mid, inside c = true) {c : Char} {cs : List Char} (hafter : p.after = c :: cs)
    (hc : inside c = false) : pattern.covered? p = none := by
  refine covered?_eq_none fun mid behind hmid htakes => ?_
  obtain ⟨d, mid, rfl⟩ := List.exists_cons_of_ne_nil (htakes.ne_nil hneeds)
  obtain ⟨rfl, -⟩ := List.cons.inj (hafter.symm.trans hmid)
  rw [hchars htakes c List.mem_cons_self] at hc
  cases hc

/-- In each maximal run the pattern covers what is picked from it: a first part is skipped, the
second is found. -/
structure Picks (pattern : Pattern) (inside : Char → Bool)
    (pick : List Char → Option (List Char × List Char)) : Prop where
  outside : ∀ {p : Place} {c : Char} {cs : List Char}, p.after = c :: cs → inside c = false →
    pattern.covered? p = none
  absent : ∀ {p : Place} {run rest : List Char}, p.StartsRun inside run rest → pick run = none →
    pattern.FailsIn p run rest
  present : ∀ {p : Place} {run rest skipped found : List Char}, p.StartsRun inside run rest →
    pick run = some (skipped, found) → ∃ tail, run = skipped ++ found ++ tail ∧ found ≠ [] ∧
      pattern.FailsIn p skipped (found ++ tail ++ rest) ∧
      pattern.covered? (p.past skipped (found ++ tail ++ rest)) = some found ∧
      pattern.FailsIn (p.past (skipped ++ found) (tail ++ rest)) tail rest

def pickedFrom (pick : List Char → Option (List Char × List Char)) (run : Text.Run) :
    Option Found :=
  (pick run.text).map fun cut =>
    ⟨run.offset + Text.byteLength cut.1, run.offset + Text.byteLength cut.1 +
      Text.byteLength cut.2, cut.2⟩

variable {pick : List Char → Option (List Char × List Char)}

theorem exists_startsRun {c : Char} {cs : List Char} (hafter : p.after = c :: cs)
    (hc : inside c = true) (hstarts : p.before.any inside = false) :
    ∃ run rest, run ≠ [] ∧ p.StartsRun inside run rest := by
  refine ⟨p.after.takeWhile inside, p.after.dropWhile inside, ?_,
    List.takeWhile_append_dropWhile.symm, hstarts, fun d hd => ?_, ?_⟩
  · simp [hafter, hc]
  · exact List.mem_takeWhile_imp hd
  · have hhead := List.head?_dropWhile_not inside p.after
    cases hdrop : (p.after.dropWhile inside).head? with
    | none => rfl
    | some d => simpa [hdrop] using hhead

theorem Picks.finds_run (h : pattern.Picks inside pick) {run skipped found : List Char}
    (hrun : p.StartsRun inside run rest) (hpick : pick run = some (skipped, found))
    {fs : List Found} (hlater : pattern.Finds (p.past run rest) fs) :
    pattern.Finds p (⟨p.offset + Text.byteLength skipped,
      p.offset + Text.byteLength skipped + Text.byteLength found, found⟩ :: fs) := by
  obtain ⟨tail, rfl, hne, hskipped, hfound, htail⟩ := h.present hrun hpick
  have hbehind : pattern.Finds (p.past (skipped ++ found) (tail ++ rest)) fs := by
    refine Finds.past htail rfl ?_
    rwa [Place.past_past]
  rw [← Place.past_past p skipped found (found ++ tail ++ rest)] at hbehind
  have hsplit : (p.past skipped (found ++ tail ++ rest)).after = found ++ (tail ++ rest) :=
    List.append_assoc ..
  refine Finds.past hskipped ?_ (Finds.jump hsplit hne hfound hbehind)
  rw [hrun.after]
  simp

theorem Picks.finds (h : pattern.Picks inside pick) (hp : p.BetweenRuns inside) :
    pattern.Finds p ((p.runs inside).filterMap (pickedFrom pick)) := by
  induction hn : p.after.length using Nat.strong_induction_on generalizing p with
  | _ n ih =>
    cases hafter : p.after with
    | nil =>
      rw [Place.runs, hafter]
      exact .done hafter
    | cons c cs =>
      by_cases hc : inside c = true
      · have hstarts : p.before.any inside = false := by
          rcases hp with hp | hp
          · exact hp
          · simp [hafter, hc] at hp
        obtain ⟨run, rest, hne, hrun⟩ := exists_startsRun hafter hc hstarts
        have hlt : rest.length < n := by
          have := List.length_pos_iff.mpr hne
          rw [← hn, hrun.after, List.length_append]
          omega
        have hlater := ih rest.length hlt (p := p.past run rest) (.inr hrun.stops) rfl
        rw [Place.runs_of_startsRun hrun hne, List.filterMap_cons]
        cases hpick : pick run with
        | none =>
          rw [pickedFrom, hpick]
          exact hlater.past (h.absent hrun hpick) hrun.after
        | some cut =>
          rw [pickedFrom, hpick]
          exact h.finds_run hrun hpick hlater
      · have hc : inside c = false := by simpa using hc
        have hruns : p.runs inside = (p.step c cs).runs inside := by
          simp [Place.runs, hafter, Text.runsFrom, hc, Place.step]
        rw [hruns]
        refine .pass hafter (h.outside hafter hc) (ih cs.length ?_ (.inl hc) rfl)
        simp [← hn, hafter]

theorem Picks.findAll (h : pattern.Picks inside pick) (text : List Char) :
    pattern.findAll text = (Text.runs inside text).filterMap (pickedFrom pick) :=
  findAll_of_finds (h.finds (p := ⟨none, text, 0⟩) (.inl rfl))

theorem covered?_to_end {s : CharSet} {back : List Char} (hends : pattern.endsWithRun s = true)
    (hchars : ∀ {before mid behind}, pattern.Takes before mid behind → ∀ c ∈ mid, s.mem c = true)
    (hafter : p.after = back ++ rest) (hback : ∀ c ∈ back, s.mem c = true)
    (hrest : rest.head?.any s.mem = false) (hsome : (pattern.covered? p).isSome) :
    pattern.covered? p = some back := by
  obtain ⟨mid, hmid⟩ := Option.isSome_iff_exists.mp hsome
  obtain ⟨behind, hbehind, hmatch⟩ := covered?_eq_some_iff.mp hmid
  obtain ⟨other, hother, htakes, hcovered⟩ := matchAt?_spec hmatch
  obtain rfl := Option.some.inj (hmid.symm.trans hcovered)
  have hstops := stops_of_endsWithRun hends hmatch
  have htake := Text.takeWhile_run (hchars htakes) hstops
  rw [hmid, ← htake, ← Text.takeWhile_run hback hrest, ← hafter, hbehind]
  rfl

theorem picks_of_opens {s : CharSet} {opens : List Char → Bool} (hneeds : pattern.needsChar = true)
    (hends : pattern.endsWithRun s = true)
    (hchars : ∀ {before mid behind}, pattern.Takes before mid behind → ∀ c ∈ mid, s.mem c = true)
    (hopens : ∀ {before back rest}, (∀ c ∈ back, s.mem c = true) →
      rest.head?.any s.mem = false → ((∃ mid behind, back ++ rest = mid ++ behind ∧
        pattern.Takes before mid behind) ↔ opens back = true)) :
    pattern.Picks s.mem (Text.firstCut? fun _ back => opens back) where
  outside := covered?_outside hneeds hchars
  absent := by
    intro p run rest hrun hpick front c back hsplit
    have hclosed := Text.firstCut?_eq_none_iff.mp hpick front (c :: back) hsplit
    have hback : ∀ d ∈ c :: back, s.mem d = true := fun d hd => hrun.chars d (by simp [hsplit, hd])
    refine covered?_eq_none fun mid behind hmid htakes => ?_
    rw [(hopens hback hrun.stops).mp ⟨mid, behind, hmid, htakes⟩] at hclosed
    cases hclosed
  present := by
    intro p run rest skipped found hrun hpick
    obtain ⟨rfl, hopen, hleast⟩ := Text.firstCut?_spec hpick
    have hfound : ∀ c ∈ found, s.mem c = true := fun c hc => hrun.chars c (by simp [hc])
    obtain ⟨mid, behind, hmid, htakes⟩ :=
      (@hopens (p.past skipped (found ++ rest)).before _ _ hfound hrun.stops).mpr hopen
    obtain ⟨tail, rfl, -⟩ := Text.prefix_of_run hmid hrun.stops (hchars htakes)
    refine ⟨[], by simp, List.append_ne_nil_of_left_ne_nil (htakes.ne_nil hneeds) tail, ?_, ?_,
      failsIn_nil⟩
    · intro front c back hsplit
      have hchars' : ∀ d ∈ c :: back ++ (mid ++ tail), s.mem d = true :=
        fun d hd => hrun.chars d (by simp_all)
      refine covered?_eq_none fun mid' behind' hmid' htakes' => ?_
      have hearlier := (hopens hchars' hrun.stops).mp
        ⟨mid', behind', by simpa [Place.past] using hmid', htakes'⟩
      have hle := hleast front _ (by rw [hsplit, List.append_assoc]) hearlier
      rw [hsplit, List.length_append, List.length_cons] at hle
      omega
    · rw [List.append_nil]
      exact covered?_to_end hends hchars rfl hfound hrun.stops
        (isSome_covered?_iff.mpr ⟨mid, behind, hmid, htakes⟩)

end Pattern

end Scriptwright
