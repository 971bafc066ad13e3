import Scriptwright.Proofs.Pattern.Greedy

/-!
Searching a text that is put together with a space. A pattern that keeps clear of spaces sees
neither where in a text it stands nor what follows the next space, so it finds in the whole what it
finds in the two parts and nothing else.
-/
namespace Scriptwright

namespace Place

/-- `p'` is like `p`, but `n` bytes further on and with `rest` at the end of the text. -/
structure Mirrors (n : Nat) (rest : List Char) (p p' : Place) : Prop where
  before : p'.before.any Text.isWordChar = p.before.any Text.isWordChar
  after : p'.after = p.after ++ rest
  offset : p'.offset = p.offset + n

variable {n : Nat} {rest : List Char} {p p' : Place}

theorem Mirrors.refl (p : Place) : Mirrors 0 [] p p := ⟨rfl, (List.append_nil _).symm, rfl⟩

theorem Mirrors.step (h : Mirrors n rest p p') (c : Char) (cs : List Char) :
    Mirrors n rest (p.step c cs) (p'.step c (cs ++ rest)) := by
  refine ⟨rfl, rfl, ?_⟩
  simp only [Place.step, h.offset]
  omega

/-- What follows a text is nothing or begins with a space. -/
def SpaceFollows (rest : List Char) : Prop := ∀ c ∈ rest.head?, c = ' '

theorem Mirrors.atWordEdge (h : Mirrors n rest p p') (hrest : SpaceFollows rest) :
    p'.atWordEdge = p.atWordEdge := by
  have hspace : Text.isWordChar ' ' = false := by decide
  have hnext : p'.next?.any Text.isWordChar = p.next?.any Text.isWordChar := by
    unfold next?
    rw [h.after]
    cases hafter : p.after with
    | cons c cs => rfl
    | nil =>
      cases rest with
      | nil => rfl
      | cons d ds =>
        obtain rfl : d = ' ' := hrest d rfl
        exact hspace
  rw [Place.atWordEdge, Place.atWordEdge, h.before, hnext]

theorem Mirrors.past (h : Mirrors n rest p p') (mid behind : List Char) :
    Mirrors n rest (p.past mid behind) (p'.past mid (behind ++ rest)) := by
  refine ⟨?_, rfl, ?_⟩
  · unfold Place.past
    cases mid.getLast? with
    | none => exact h.before
    | some c => rfl
  · simp only [Place.past, h.offset]
    omega

end Place

/-- The match in a text that begins `n` bytes earlier. -/
def Found.shift (n : Nat) (f : Found) : Found := { f with start := f.start + n, stop := f.stop + n }

theorem Found.shift_zero (f : Found) : f.shift 0 = f := rfl

namespace Pattern

/-- No match passes a space or asks for the edge of a line. -/
def avoidsSpace : Pattern → Bool
  | .nothing | .wordEdge => true
  | .char s | .run s => !s.mem ' '
  | .seq first second => first.avoidsSpace && second.avoidsSpace
  | .either preferred other => preferred.avoidsSpace && other.avoidsSpace
  | .lineStart | .lineEnd => false

/-- Matches are not empty and lie between spaces. -/
def staysApart (pattern : Pattern) : Bool := pattern.avoidsSpace && pattern.needsChar

variable {n : Nat} {rest mid : List Char} {pattern : Pattern} {p p' : Place}

/-- A pattern sees no difference between places that mirror each other. -/
theorem matchThen_mirror {α β : Type} {pattern : Pattern} (h : pattern.avoidsSpace = true)
    (hrest : Place.SpaceFollows rest) {f : α → β} {p p' : Place} (hp : p.Mirrors n rest p')
    {k : Place → Option α} {k' : Place → Option β}
    (hk : ∀ q q', Place.Mirrors n rest q q' → k' q' = (k q).map f) :
    pattern.matchThen p' k' = (pattern.matchThen p k).map f := by
  induction pattern generalizing p p' k k' with
  | nothing => exact hk p p' hp
  | char s =>
    have hs : s.mem ' ' = false := by simpa [avoidsSpace] using h
    unfold matchThen
    rw [hp.after]
    cases hafter : p.after with
    | cons c cs =>
      simp only [List.cons_append]
      split
      · exact hk _ _ (hp.step c cs)
      · rfl
    | nil =>
      cases rest with
      | nil => rfl
      | cons d ds =>
        obtain rfl : d = ' ' := hrest d rfl
        simp [hs]
  | run s =>
    have hs : s.mem ' ' = false := by simpa [avoidsSpace] using h
    -- along the run, which both places are in front of
    obtain ⟨before, after, offset⟩ := p
    induction after generalizing before offset p' with
    | nil =>
      have hstop : ∀ c ∈ p'.after.head?, s.mem c = false := by
        intro c hc
        rw [hp.after] at hc
        rw [hrest c hc, hs]
      rw [matchThen_run_of_not_mem hstop, matchThen_run_of_not_mem (by simp), hk _ _ hp]
    | cons c cs ih =>
      have hafter : p'.after = c :: (cs ++ rest) := hp.after
      have hhere : (⟨before, c :: cs, offset⟩ : Place).after = c :: cs := rfl
      by_cases hc : s.mem c = true
      · rw [matchThen_run_of_mem hafter hc, matchThen_run_of_mem hhere hc, hk _ _ hp,
          ih _ _ (hp.step c cs), Option.map_or]
        rfl
      · have hstop : ∀ d ∈ (c :: (cs ++ rest)).head?, s.mem d = false := by simpa using hc
        rw [matchThen_run_of_not_mem (by rwa [hafter]), matchThen_run_of_not_mem hstop, hk _ _ hp]
  | seq first second ihfirst ihsecond =>
    obtain ⟨hfirst, hsecond⟩ := (Bool.and_eq_true _ _).mp h
    exact ihfirst hfirst hp fun q q' hq => ihsecond hsecond hq hk
  | either preferred other ihpreferred ihother =>
    obtain ⟨hpreferred, hother⟩ := (Bool.and_eq_true _ _).mp h
    unfold matchThen
    rw [ihpreferred hpreferred hp hk, ihother hother hp hk]
    cases preferred.matchThen p k <;> rfl
  | wordEdge =>
    unfold matchThen
    rw [hp.atWordEdge hrest]
    split
    · exact hk p p' hp
    · rfl
  | lineStart | lineEnd => cases h

theorem Takes.not_mem_space {before : Option Char} (h : pattern.Takes before mid rest)
    (havoids : pattern.avoidsSpace = true) : ' ' ∉ mid := by
  induction pattern generalizing before mid rest with
  | nothing | wordEdge => simp_all [Takes]
  | char s =>
    obtain ⟨c, rfl, hc⟩ := h
    rintro hmem
    obtain rfl := List.mem_singleton.mp hmem
    simp [avoidsSpace, hc] at havoids
  | run s =>
    intro hmem
    have hspace : s.mem ' ' = true := h ' ' hmem
    simp [avoidsSpace, hspace] at havoids
  | seq first second ihfirst ihsecond =>
    obtain ⟨hfirst, hsecond⟩ := (Bool.and_eq_true _ _).mp havoids
    obtain ⟨xs, ys, rfl, hxs, hys⟩ := h
    rw [List.mem_append]
    exact not_or.mpr ⟨ihfirst hxs hfirst, ihsecond hys hsecond⟩
  | either preferred other ihpreferred ihother =>
    obtain ⟨hpreferred, hother⟩ := (Bool.and_eq_true _ _).mp havoids
    exact h.elim (ihpreferred · hpreferred) (ihother · hother)
  | lineStart | lineEnd => cases havoids

theorem matchAt?_mirror (havoids : pattern.avoidsSpace = true) (hrest : Place.SpaceFollows rest)
    (hp : p.Mirrors n rest p') :
    (pattern.matchAt? p').map (·.offset) = (pattern.matchAt? p).map fun q => q.offset + n := by
  have along : ∀ {n : Nat} {rest : List Char} {p p' : Place}, Place.SpaceFollows rest →
      p.Mirrors n rest p' → pattern.matchThen p' (fun q => some q.offset) =
        (pattern.matchAt? p).map fun q => q.offset + n := by
    intro n rest p p' hrest hp
    refine matchThen_mirror havoids hrest hp fun q q' hq => ?_
    rw [hq.offset]
    rfl
  have hsame : (pattern.matchAt? p').map (·.offset) =
      pattern.matchThen p' fun q => some q.offset :=
    (along (by simp [Place.SpaceFollows]) (.refl p')).symm
  exact hsame.trans (along hrest hp)

theorem covered?_mirror (havoids : pattern.avoidsSpace = true) (hrest : Place.SpaceFollows rest)
    (hp : p.Mirrors n rest p') : pattern.covered? p' = pattern.covered? p := by
  have hmatch := matchAt?_mirror havoids hrest hp
  cases hq : pattern.matchAt? p with
  | none =>
    rw [hq] at hmatch
    rw [covered?_eq_none_iff.mpr hq]
    exact covered?_eq_none_iff.mpr (Option.map_eq_none_iff.mp hmatch)
  | some q =>
    rw [hq] at hmatch
    obtain ⟨q', hq', hoffset⟩ := Option.map_eq_some_iff.mp hmatch
    obtain ⟨mid, hmid, -, hcovered⟩ := matchAt?_spec hq
    have hbytes : q'.offset - p'.offset = Text.byteLength mid := by
      have hq : q.offset = p.offset + Text.byteLength mid := congrArg Place.offset hmid.place
      have hp := hp.offset
      simp only at hoffset
      omega
    rw [hcovered, covered?, hq', Option.map_some, hbytes, hp.after, hmid.after, List.append_assoc,
      takeBytes_eq]
    rfl

theorem covered?_space (havoids : pattern.avoidsSpace = true) (hneeds : pattern.needsChar = true)
    {cs : List Char} (h : p.after = ' ' :: cs) : pattern.covered? p = none := by
  refine covered?_eq_none fun mid rest hmid htakes => ?_
  obtain ⟨c, mid, rfl⟩ := List.exists_cons_of_ne_nil (htakes.ne_nil hneeds)
  obtain ⟨rfl, -⟩ := List.cons.inj (h.symm.trans hmid)
  exact htakes.not_mem_space havoids List.mem_cons_self

/-- A walk through a text is also a walk through a longer one, up to the next space. -/
theorem Finds.mirror (havoids : pattern.avoidsSpace = true) (hrest : Place.SpaceFollows rest)
    {fs gs : List Found} (h : pattern.Finds p fs) (hp : p.Mirrors n rest p')
    (hlater : pattern.Finds (p'.past p.after rest) gs) :
    pattern.Finds p' (fs.map (·.shift n) ++ gs) := by
  induction h generalizing p' with
  | @done p hend =>
    have hafter : p'.after = rest := by rw [hp.after, hend, List.nil_append]
    rwa [hend, ← hafter, Place.past_nil] at hlater
  | @pass p c cs fs hafter hnone later ih =>
    have hafter' : p'.after = c :: (cs ++ rest) := by rw [hp.after, hafter, List.cons_append]
    refine .pass hafter' ?_ (ih (hp.step c cs) ?_)
    · rw [covered?_mirror havoids hrest hp, hnone]
    · rw [hafter, ← Place.step_past] at hlater
      exact hlater
  | @jump p mid behind fs hafter hmid hsome later ih =>
    have hafter' : p'.after = mid ++ (behind ++ rest) := by
      rw [hp.after, hafter, List.append_assoc]
    have hcovered : pattern.covered? p' = some mid := by
      rw [covered?_mirror havoids hrest hp, hsome]
    have hlater' : pattern.Finds ((p'.past mid (behind ++ rest)).past behind rest) gs := by
      rw [Place.past_past, ← hafter]
      exact hlater
    have hjump := Finds.jump hafter' hmid hcovered (ih (hp.past mid behind) hlater')
    have hfound : (⟨p'.offset, p'.offset + Text.byteLength mid, mid⟩ : Found) =
        (⟨p.offset, p.offset + Text.byteLength mid, mid⟩ : Found).shift n := by
      rw [hp.offset, Found.shift, Nat.add_right_comm]
    rw [hfound] at hjump
    exact hjump

/-- What is found in two texts with a space between them is what is found in each of them. -/
theorem findAll_append_space (hapart : pattern.staysApart = true) (xs ys : List Char) :
    pattern.findAll (xs ++ ' ' :: ys) =
      pattern.findAll xs ++ (pattern.findAll ys).map (·.shift (Text.byteLength xs + 1)) := by
  obtain ⟨havoids, hneeds⟩ := (Bool.and_eq_true _ _).mp hapart
  let start : Place := ⟨none, xs ++ ' ' :: ys, 0⟩
  have hxs : Place.Mirrors 0 (' ' :: ys) ⟨none, xs, 0⟩ start := ⟨rfl, rfl, rfl⟩
  have hys : Place.Mirrors (Text.byteLength xs + 1) [] ⟨none, ys, 0⟩
      ((start.past xs (' ' :: ys)).step ' ' ys) := by
    refine ⟨?_, (List.append_nil ys).symm, ?_⟩
    · have hspace : Text.isWordChar ' ' = false := by decide
      exact hspace
    · simp [Place.step, Place.past, start]
      rfl
  have hright := (finds_findAll hneeds ys).mirror havoids (by simp [Place.SpaceFollows]) hys
    (.done rfl)
  have hleft := (finds_findAll hneeds xs).mirror havoids (by simp [Place.SpaceFollows]) hxs
    (.pass rfl (covered?_space havoids hneeds rfl) hright)
  have hwhole := findAll_of_finds hleft
  simpa [Found.shift_zero] using hwhole

end Pattern

end Scriptwright
