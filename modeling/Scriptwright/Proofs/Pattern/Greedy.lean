import Mathlib.Data.List.TakeWhile
import Scriptwright.Proofs.Pattern.Searching

/-!
A run takes as much as it can: the match that is preferred goes on for as long as what comes behind
the run allows.
-/
namespace Scriptwright

namespace Pattern

variable {α : Type} {s : CharSet} {p q : Place} {k : Place → Option α}

theorem matchThen_run_of_mem {s : CharSet} {p : Place} {c : Char} {cs : List Char}
    (h : p.after = c :: cs) (hc : s.mem c = true) (k : Place → Option α) :
    (Pattern.run s).matchThen p k = ((Pattern.run s).matchThen (p.step c cs) k).or (k p) := by
  unfold matchThen
  rw [Place.runEnds_of_mem h hc, List.findSome?_append]
  cases hk : k p <;> simp [hk]

theorem matchThen_run_of_not_mem {s : CharSet} {p : Place}
    (h : ∀ c ∈ p.after.head?, s.mem c = false) (k : Place → Option α) :
    (Pattern.run s).matchThen p k = k p := by
  unfold matchThen
  rw [Place.runEnds_of_not_mem h]
  cases hk : k p <;> simp [hk]

/-- The longest run behind which the search succeeds decides. -/
theorem matchThen_run_longest {xs ys : List Char} {x : α} (hafter : p.after = xs ++ ys)
    (hxs : ∀ c ∈ xs, s.mem c = true) (hk : k (p.past xs ys) = some x)
    (hlonger : ∀ zs ws, ys = zs ++ ws → zs ≠ [] → (∀ c ∈ zs, s.mem c = true) →
      k (p.past (xs ++ zs) ws) = none) : (Pattern.run s).matchThen p k = some x := by
  induction xs generalizing p with
  | nil =>
    obtain rfl : p.after = ys := hafter
    rw [Place.past_nil] at hk
    cases hhead : p.after with
    | nil => rw [matchThen_run_of_not_mem (by simp [hhead]), hk]
    | cons c cs =>
      by_cases hc : s.mem c = true
      · have hnone : (Pattern.run s).matchThen (p.step c cs) k = none := by
          rw [← Option.not_isSome_iff_eq_none, isSome_matchThen_iff]
          rintro ⟨q, hq, hsome⟩
          obtain ⟨mid, hmid, hmem⟩ := Place.mem_runEnds_iff.mp hq
          have hcs : cs = mid ++ q.after := hmid.after
          have hfar := hlonger (c :: mid) q.after (by rw [hhead, hcs]; rfl) (List.cons_ne_nil c mid)
            (List.forall_mem_cons.mpr ⟨hc, hmem⟩)
          rw [List.nil_append, ← Place.step_past, ← hcs, ← hmid.place] at hfar
          rw [hfar] at hsome
          cases hsome
        rw [matchThen_run_of_mem hhead hc, hnone, hk]
        rfl
      · have hstop : ∀ d ∈ p.after.head?, s.mem d = false := by simpa [hhead] using hc
        rw [matchThen_run_of_not_mem hstop, hk]
  | cons c xs ih =>
    obtain ⟨hc, hxs⟩ := List.forall_mem_cons.mp hxs
    have hdeeper : (Pattern.run s).matchThen (p.step c (xs ++ ys)) k = some x := by
      refine ih rfl hxs (by rwa [Place.step_past]) fun zs ws hys hne hzs => ?_
      have hfar := hlonger zs ws hys hne hzs
      rwa [List.cons_append, ← Place.step_past, List.append_assoc, ← hys] at hfar
    have hafter' : p.after = c :: (xs ++ ys) := hafter
    rw [matchThen_run_of_mem hafter' hc, hdeeper]
    rfl

theorem covered?_longest {second : Pattern} {xs ys mid : List Char} (hafter : p.after = xs ++ ys)
    (hne : xs ≠ []) (hxs : ∀ c ∈ xs, s.mem c = true)
    (hsecond : second.covered? (p.past xs ys) = some mid)
    (hlonger : ∀ zs ws, ys = zs ++ ws → zs ≠ [] → (∀ c ∈ zs, s.mem c = true) →
      second.covered? (p.past (xs ++ zs) ws) = none) :
    (Pattern.seq (someOf s) second).covered? p = some (xs ++ mid) := by
  obtain ⟨c, xs, rfl⟩ := List.exists_cons_of_ne_nil hne
  obtain ⟨hc, hxs⟩ := List.forall_mem_cons.mp hxs
  obtain ⟨rest, hys, hmatch⟩ := covered?_eq_some_iff.mp hsecond
  have hrun : (Pattern.run s).matchThen (p.step c (xs ++ ys)) second.matchAt? =
      some ((p.past (c :: xs) ys).past mid rest) := by
    refine matchThen_run_longest rfl hxs (by rwa [Place.step_past]) fun zs ws hzs hne hmem => ?_
    have hfar := covered?_eq_none_iff.mp (hlonger zs ws hzs hne hmem)
    rwa [List.cons_append, ← Place.step_past, List.append_assoc, ← hzs] at hfar
  have hchar : (Pattern.seq (someOf s) second).matchAt? p =
      (Pattern.run s).matchThen (p.step c (xs ++ ys)) second.matchAt? := by
    have hafter' : p.after = c :: (xs ++ ys) := hafter
    simp only [matchAt?, matchThen, someOf, hafter', hc, if_true]
    rfl
  refine covered?_eq_some_iff.mpr ⟨rest, ?_, ?_⟩
  · rw [hafter, List.append_assoc]
    exact congrArg _ hys
  · rw [hchar, hrun, Place.past_past]

/-- Every match ends with a run of the set. -/
def endsWithRun (s : CharSet) : Pattern → Bool
  | .run t => t = s
  | .seq _ second => second.endsWithRun s
  | .either preferred other => preferred.endsWithRun s && other.endsWithRun s
  | .nothing | .char _ | .wordEdge | .lineStart | .lineEnd => false

theorem stops_of_endsWithRun {pattern : Pattern} (h : pattern.endsWithRun s = true)
    (hmatch : pattern.matchAt? p = some q) : q.after.head?.any s.mem = false := by
  induction pattern generalizing p with
  | run t =>
    obtain rfl : t = s := of_decide_eq_true h
    have hsplit : p.after = p.after.takeWhile t.mem ++ p.after.dropWhile t.mem :=
      List.takeWhile_append_dropWhile.symm
    have hstop := List.head?_dropWhile_not t.mem p.after
    have hfar := matchThen_run_longest (k := some) hsplit (fun c => List.mem_takeWhile_imp) rfl ?_
    · obtain rfl := Option.some.inj (hmatch.symm.trans hfar)
      cases hdrop : (p.after.dropWhile t.mem).head? with
      | none => rw [Place.past, hdrop]; rfl
      | some c => simpa [Place.past, hdrop] using hstop
    · intro zs ws hzs hne hmem
      obtain ⟨c, zs, rfl⟩ := List.exists_cons_of_ne_nil hne
      rw [hzs] at hstop
      have hc := hmem c List.mem_cons_self
      simp [hc] at hstop
  | seq first second _ ihsecond =>
    have hmatch' : first.matchThen p second.matchAt? = some q := hmatch
    obtain ⟨r, -, hr⟩ := exists_of_matchThen hmatch'
    exact ihsecond h hr
  | either preferred other ihpreferred ihother =>
    obtain ⟨hpreferred, hother⟩ := (Bool.and_eq_true _ _).mp h
    cases hp : preferred.matchAt? p with
    | some r =>
      rw [matchAt?, matchThen, ← matchAt?, hp] at hmatch
      exact ihpreferred hpreferred (hp.trans hmatch)
    | none =>
      rw [matchAt?, matchThen, ← matchAt?, hp] at hmatch
      exact ihother hother hmatch
  | nothing | char | wordEdge | lineStart | lineEnd => cases h

end Pattern

end Scriptwright
