import Scriptwright.Proofs.Pattern.Takes

/-!
A search as a walk through a text: it passes characters at which no match begins and jumps behind
each match. Which text the preferred match covers, and that a walk is what the search does.
-/
namespace Scriptwright

namespace Pattern

variable {pattern : Pattern} {p : Place} {mid rest : List Char}

def covered? (pattern : Pattern) (p : Place) : Option (List Char) :=
  (pattern.matchAt? p).map fun q => takeBytes [] (q.offset - p.offset) p.after

theorem matchAt?_spec {q : Place} (h : pattern.matchAt? p = some q) :
    ∃ mid, p.Passes q mid ∧ pattern.Takes p.before mid q.after ∧ pattern.covered? p = some mid := by
  obtain ⟨r, hleads, hr⟩ := exists_of_matchThen h
  obtain rfl := Option.some.inj hr
  rw [leads_iff] at hleads
  obtain ⟨mid, hmid, htakes⟩ := hleads
  refine ⟨mid, hmid, htakes, ?_⟩
  have hbytes : r.offset - p.offset = Text.byteLength mid := by
    rw [hmid.place, Place.past, Nat.add_sub_cancel_left]
  rw [covered?, h, Option.map_some, hbytes, hmid.after, takeBytes_eq]
  rfl

theorem covered?_eq_some_iff :
    pattern.covered? p = some mid ↔
      ∃ rest, p.after = mid ++ rest ∧ pattern.matchAt? p = some (p.past mid rest) := by
  constructor
  · intro h
    obtain ⟨q, hq, -⟩ := Option.map_eq_some_iff.mp h
    obtain ⟨mid', hmid, -, hcovered⟩ := matchAt?_spec hq
    obtain rfl := Option.some.inj (hcovered.symm.trans h)
    exact ⟨q.after, hmid.after, hmid.place ▸ hq⟩
  · rintro ⟨rest, hafter, hmatch⟩
    obtain ⟨mid', hmid, -, hcovered⟩ := matchAt?_spec hmatch
    rw [hcovered, hmid.unique (Place.passes_past hafter)]

theorem covered?_eq_none_iff : pattern.covered? p = none ↔ pattern.matchAt? p = none :=
  Option.map_eq_none_iff

theorem takes_of_covered? (h : pattern.covered? p = some mid) :
    ∃ rest, p.after = mid ++ rest ∧ pattern.Takes p.before mid rest := by
  obtain ⟨rest, hafter, hmatch⟩ := covered?_eq_some_iff.mp h
  obtain ⟨mid', hmid, htakes, hcovered⟩ := matchAt?_spec hmatch
  obtain rfl := Option.some.inj (hcovered.symm.trans h)
  exact ⟨rest, hafter, htakes⟩

theorem isSome_covered?_iff :
    (pattern.covered? p).isSome ↔
      ∃ mid rest, p.after = mid ++ rest ∧ pattern.Takes p.before mid rest := by
  constructor
  · intro h
    obtain ⟨mid, hmid⟩ := Option.isSome_iff_exists.mp h
    exact ⟨mid, takes_of_covered? hmid⟩
  · rintro ⟨mid, rest, hafter, htakes⟩
    rw [covered?, Option.isSome_map, matchAt?, isSome_matchThen_iff]
    refine ⟨p.past mid rest, ?_, rfl⟩
    rw [leads_iff]
    exact ⟨mid, Place.passes_past hafter, htakes⟩

theorem covered?_eq_none
    (h : ∀ mid rest, p.after = mid ++ rest → ¬ pattern.Takes p.before mid rest) :
    pattern.covered? p = none := by
  rw [← Option.not_isSome_iff_eq_none, isSome_covered?_iff]
  rintro ⟨mid, rest, hafter, htakes⟩
  exact h mid rest hafter htakes

theorem covered?_of_unique (hafter : p.after = mid ++ rest)
    (htakes : pattern.Takes p.before mid rest)
    (hunique : ∀ xs ys, p.after = xs ++ ys → pattern.Takes p.before xs ys → xs = mid) :
    pattern.covered? p = some mid := by
  obtain ⟨xs, hxs⟩ := Option.isSome_iff_exists.mp
    (isSome_covered?_iff.mpr ⟨mid, rest, hafter, htakes⟩)
  obtain ⟨ys, hys, htakes'⟩ := takes_of_covered? hxs
  rw [hxs, hunique xs ys hys htakes']

theorem takes_of_mem_findFrom {inRun : Char → Bool} {resume : Nat} {stuck : Bool}
    {before : Option Char} {offset : Nat} {cs : List Char} {f : Found}
    (h : f ∈ pattern.findFrom inRun resume stuck before offset cs) :
    ∃ before rest, pattern.Takes before f.text rest := by
  induction cs generalizing resume stuck before offset with
  | nil => cases h
  | cons c cs ih =>
    unfold findFrom at h
    split at h
    · exact ih h
    · split at h
      · exact ih h
      · split at h
        · exact ih h
        · rename_i stop hstop
          rcases List.mem_cons.mp h with rfl | h
          · obtain ⟨mid, -, htakes, hcovered⟩ := matchAt?_spec hstop
            rw [covered?, hstop] at hcovered
            have hmid : takeBytes [] (stop.offset - offset) (c :: cs) = mid :=
              Option.some.inj hcovered
            rw [hmid]
            exact ⟨_, _, htakes⟩
          · exact ih h

theorem text_mem_of_wholeWord {words : List String} {text : List Char} {f : Found}
    (h : f ∈ (wholeWord words).findAll text) : String.ofList f.text ∈ words := by
  obtain ⟨_, _, _, _, htext, ⟨rfl, _⟩, _, _, rfl, hword, rfl, _⟩ := takes_of_mem_findFrom h
  obtain ⟨pattern, hmem, htakes⟩ := takes_oneOf.mp hword
  obtain ⟨word, hword, rfl⟩ := List.mem_map.mp hmem
  rw [htext, List.nil_append, List.append_nil, takes_text.mp htakes, String.ofList_toList]
  exact hword

/-- A walk from a place to the end of the text, on which these matches are found. -/
inductive Finds (pattern : Pattern) : Place → List Found → Prop
  | done {p : Place} (hend : p.after = []) : Finds pattern p []
  | pass {p : Place} {c : Char} {cs : List Char} {fs : List Found} (hafter : p.after = c :: cs)
      (hnone : pattern.covered? p = none) (later : Finds pattern (p.step c cs) fs) :
      Finds pattern p fs
  | jump {p : Place} {mid rest : List Char} {fs : List Found} (hafter : p.after = mid ++ rest)
      (hmid : mid ≠ []) (hsome : pattern.covered? p = some mid)
      (later : Finds pattern (p.past mid rest) fs) :
      Finds pattern p (⟨p.offset, p.offset + Text.byteLength mid, mid⟩ :: fs)

theorem findFrom_resume {inRun : Char → Bool} (p : Place) (mid rest : List Char) :
    pattern.findFrom inRun (p.offset + Text.byteLength mid) false p.before p.offset (mid ++ rest) =
      pattern.findFrom inRun (p.offset + Text.byteLength mid) false (p.past mid rest).before
        (p.past mid rest).offset rest := by
  induction mid generalizing p with
  | nil => simp [Place.past, Text.byteLength]
  | cons c mid ih =>
    have hlt : p.offset < p.offset + Text.byteLength (c :: mid) := by
      have := c.utf8Size_pos
      rw [Text.byteLength_cons]
      omega
    have hstep := ih (p.step c (mid ++ rest))
    rw [Place.step_offset, Place.step_past] at hstep
    rw [List.cons_append, findFrom, if_pos hlt]
    exact hstep

/-- The walk finds what the search finds, if the run that the search may pass over fails as a
whole. -/
theorem findFrom_of_finds {inRun : Char → Bool}
    (hrun : ∀ (p : Place) (c d : Char) (cs : List Char), p.after = c :: d :: cs → inRun c = true →
      inRun d = true → pattern.covered? p = none → pattern.covered? (p.step c (d :: cs)) = none)
    {fs : List Found} (h : pattern.Finds p fs) {resume : Nat} {stuck : Bool}
    (hresume : resume ≤ p.offset)
    (hstuck : stuck = true → ∀ c ∈ p.after.head?, inRun c = true → pattern.covered? p = none) :
    pattern.findFrom inRun resume stuck p.before p.offset p.after = fs := by
  induction h generalizing resume stuck with
  | done hend =>
    rw [hend]
    rfl
  | @pass p c cs fs hafter hnone later ih =>
    have hlater : resume ≤ (p.step c cs).offset := hresume.trans (Nat.le_add_right _ _)
    have hsame : ⟨p.before, c :: cs, p.offset⟩ = p := by rw [← hafter]
    -- a failed try within the run leaves the search stuck in it
    have hnext : inRun c = true → ∀ d ∈ (p.step c cs).after.head?, inRun d = true →
        pattern.covered? (p.step c cs) = none := by
      intro hc d hd hmem
      obtain ⟨ds, rfl⟩ := List.head?_eq_some_iff.mp hd
      exact hrun p c d ds hafter hc hmem hnone
    rw [hafter, findFrom, if_neg (Nat.not_lt.mpr hresume)]
    split
    · rename_i hskip
      obtain ⟨-, hc⟩ := (Bool.and_eq_true _ _).mp hskip
      exact ih hlater fun _ => hnext hc
    · rw [hsame, covered?_eq_none_iff.mp hnone]
      exact ih hlater hnext
  | @jump p mid rest fs hafter hmid hsome later ih =>
    obtain ⟨c, mid, rfl⟩ := List.exists_cons_of_ne_nil hmid
    have hsame : ⟨p.before, c :: (mid ++ rest), p.offset⟩ = p := by
      rw [← List.cons_append, ← hafter]
    have hfree : ¬ (stuck && inRun c) = true := by
      intro hskip
      obtain ⟨hstuck', hc⟩ := (Bool.and_eq_true _ _).mp hskip
      have hnone := hstuck hstuck' c (by rw [hafter]; rfl) hc
      rw [hsome] at hnone
      cases hnone
    obtain ⟨rest', hrest', hmatch⟩ := covered?_eq_some_iff.mp hsome
    obtain rfl := List.append_cancel_left (hafter.symm.trans hrest')
    have htext : takeBytes [] ((p.past (c :: mid) rest).offset - p.offset) (c :: (mid ++ rest)) =
        c :: mid := by
      rw [Place.past, Nat.add_sub_cancel_left]
      exact takeBytes_eq [] (c :: mid) rest
    have hon := @findFrom_resume pattern inRun (p.step c (mid ++ rest)) mid rest
    rw [Place.step_past, Place.step_offset] at hon
    rw [hafter, List.cons_append, findFrom, if_neg (Nat.not_lt.mpr hresume), if_neg hfree, hsame,
      hmatch]
    simp only [htext]
    refine congrArg _ (hon.trans (ih (Nat.le_refl _) ?_))
    rintro ⟨⟩

/-- A try that fails within the opening run fails at the next character of that run too. -/
theorem covered?_step_of_openingRun? {s : CharSet} (h : pattern.openingRun? = some s) {c d : Char}
    {cs : List Char} (hafter : p.after = c :: d :: cs) (hc : s.mem c = true) (hd : s.mem d = true)
    (hnone : pattern.covered? p = none) : pattern.covered? (p.step c (d :: cs)) = none := by
  obtain ⟨second, rfl⟩ : ∃ second, pattern = .seq (someOf s) second := by
    unfold openingRun? at h
    split at h
    · rename_i s' t second
      split at h
      · rename_i hst
        obtain rfl := Option.some.inj h
        exact ⟨second, by rw [hst]; rfl⟩
      · cases h
    · cases h
  refine covered?_eq_none fun mid rest hmid htakes => ?_
  obtain ⟨xs, ys, rfl, hxs, hys⟩ := htakes
  obtain ⟨hne, hmem⟩ := takes_someOf.mp hxs
  -- the match would also be one with `c` in front
  have hlonger : (someOf s).Takes p.before (c :: xs) (ys ++ rest) :=
    takes_someOf.mpr ⟨List.cons_ne_nil c xs, List.forall_mem_cons.mpr ⟨hc, hmem⟩⟩
  have hlast : (c :: xs).getLast?.or p.before = xs.getLast?.or (p.step c (d :: cs)).before := by
    rw [List.getLast?_cons, List.getLast?_eq_some_getLast hne]
    rfl
  have hwhole : (Pattern.seq (someOf s) second).Takes p.before (c :: xs ++ ys) rest :=
    ⟨c :: xs, ys, rfl, hlonger, hlast ▸ hys⟩
  have hsome := isSome_covered?_iff.mpr ⟨c :: xs ++ ys, rest, by
    rw [hafter, List.cons_append, List.cons_append, ← hmid]; rfl, hwhole⟩
  rw [hnone] at hsome
  cases hsome

theorem findAll_of_finds {text : List Char} {fs : List Found}
    (h : pattern.Finds ⟨none, text, 0⟩ fs) : pattern.findAll text = fs := by
  unfold findAll
  refine findFrom_of_finds (fun p c d cs hafter hc hd hnone => ?_) h (Nat.le_refl 0)
    (fun hstuck => by cases hstuck)
  cases hrun : pattern.openingRun? with
  | none =>
    rw [hrun] at hc
    cases hc
  | some s =>
    rw [hrun] at hc hd
    exact covered?_step_of_openingRun? hrun hafter hc hd hnone

/-- No match of the pattern is empty. -/
def needsChar : Pattern → Bool
  | .char _ => true
  | .seq first second => first.needsChar || second.needsChar
  | .either preferred other => preferred.needsChar && other.needsChar
  | .nothing | .run _ | .wordEdge | .lineStart | .lineEnd => false

theorem Takes.ne_nil {before : Option Char} (h : pattern.Takes before mid rest)
    (hneeds : pattern.needsChar = true) : mid ≠ [] := by
  induction pattern generalizing before mid rest with
  | char s =>
    obtain ⟨c, rfl, -⟩ := h
    exact List.cons_ne_nil c []
  | seq first second ihfirst ihsecond =>
    obtain ⟨xs, ys, rfl, hxs, hys⟩ := h
    rcases (Bool.or_eq_true _ _).mp hneeds with hfirst | hsecond
    · exact List.append_ne_nil_of_left_ne_nil (ihfirst hxs hfirst) ys
    · exact List.append_ne_nil_of_right_ne_nil xs (ihsecond hys hsecond)
  | either preferred other ihpreferred ihother =>
    obtain ⟨hpreferred, hother⟩ := (Bool.and_eq_true _ _).mp hneeds
    exact h.elim (ihpreferred · hpreferred) (ihother · hother)
  | nothing | run | wordEdge | lineStart | lineEnd => cases hneeds

theorem exists_finds (hneeds : pattern.needsChar = true) (p : Place) :
    ∃ fs, pattern.Finds p fs := by
  induction hn : p.after.length using Nat.strong_induction_on generalizing p with
  | _ n ih =>
    cases hafter : p.after with
    | nil => exact ⟨[], .done hafter⟩
    | cons c cs =>
      cases hcovered : pattern.covered? p with
      | none =>
        obtain ⟨fs, hfs⟩ := ih cs.length (by simp [← hn, hafter]) (p.step c cs) rfl
        exact ⟨fs, .pass hafter hcovered hfs⟩
      | some mid =>
        obtain ⟨rest, hsplit, htakes⟩ := takes_of_covered? hcovered
        have hmid := htakes.ne_nil hneeds
        have hlt : rest.length < n := by
          have := List.length_pos_iff.mpr hmid
          rw [← hn, hsplit, List.length_append]
          omega
        obtain ⟨fs, hfs⟩ := ih rest.length hlt (p.past mid rest) rfl
        exact ⟨_, .jump hsplit hmid hcovered hfs⟩

theorem finds_findAll (hneeds : pattern.needsChar = true) (text : List Char) :
    pattern.Finds ⟨none, text, 0⟩ (pattern.findAll text) := by
  obtain ⟨fs, hfs⟩ := exists_finds hneeds ⟨none, text, 0⟩
  rwa [findAll_of_finds hfs]

theorem Finds.slice {fs : List Found} (h : pattern.Finds p fs) {f : Found} (hf : f ∈ fs) :
    f.text ≠ [] ∧ ∃ front rest, p.after = front ++ f.text ++ rest ∧
      f.start = p.offset + Text.byteLength front ∧ f.stop = f.start + Text.byteLength f.text := by
  induction h with
  | done hend => cases hf
  | @pass p c cs fs hafter hnone later ih =>
    obtain ⟨hne, front, rest, hsplit, hstart, hstop⟩ := ih hf
    refine ⟨hne, c :: front, rest, ?_, ?_, hstop⟩
    · rw [hafter]
      exact congrArg (c :: ·) hsplit
    · rw [hstart, Text.byteLength_cons, ← Nat.add_assoc]
      rfl
  | @jump p mid behind fs hafter hmid hsome later ih =>
    rcases List.mem_cons.mp hf with rfl | hf
    · exact ⟨hmid, [], behind, hafter, rfl, rfl⟩
    · obtain ⟨hne, front, rest, hsplit, hstart, hstop⟩ := ih hf
      refine ⟨hne, mid ++ front, rest, ?_, ?_, hstop⟩
      · rw [hafter, List.append_assoc mid, List.append_assoc mid]
        exact congrArg (mid ++ ·) hsplit
      · rw [hstart, Text.byteLength_append, ← Nat.add_assoc]
        rfl

theorem occursFrom_of_finds (hneeds : pattern.needsChar = true) {fs : List Found}
    (h : pattern.Finds p fs) : pattern.occursFrom p.before p.offset p.after = !fs.isEmpty := by
  induction h with
  | @done p hend =>
    have hnone : pattern.covered? p = none := by
      refine covered?_eq_none fun mid rest hmid htakes => htakes.ne_nil hneeds ?_
      exact (List.append_eq_nil_iff.mp (hmid.symm.trans hend)).1
    have hmatch := covered?_eq_none_iff.mp hnone
    rw [hend, occursFrom, ← hend, hmatch]
    rfl
  | @pass p c cs fs hafter hnone later ih =>
    have hmatch := covered?_eq_none_iff.mp hnone
    rw [hafter, occursFrom, ← hafter, hmatch]
    exact ih
  | @jump p mid rest fs hafter hmid hsome later ih =>
    obtain ⟨c, mid, rfl⟩ := List.exists_cons_of_ne_nil hmid
    obtain ⟨_, _, hmatch⟩ := covered?_eq_some_iff.mp hsome
    rw [hafter, List.cons_append, occursFrom, ← List.cons_append, ← hafter, hmatch]
    rfl

theorem occurs_eq (hneeds : pattern.needsChar = true) (text : List Char) :
    pattern.occurs text = !(pattern.findAll text).isEmpty :=
  occursFrom_of_finds hneeds (finds_findAll hneeds text)

end Pattern

end Scriptwright
