import Scriptwright.Proofs.Pattern.Takes

/-!
Showing that a pattern does not occur. A match begins with one of a few short windows, sequences of
character sets; where none of them stands in a text, the pattern does not occur in it. Windows are
looked for all at once from left to right, so a text can be searched piece by piece.
-/
namespace Scriptwright

abbrev Window := List CharSet

namespace Window

def Opens : Window → List Char → Prop
  | [], _ => True
  | _ :: _, [] => False
  | s :: w, c :: cs => s.mem c = true ∧ Opens w cs

def OccursIn (w : Window) (text : List Char) : Prop := ∃ rest, rest <:+ text ∧ w.Opens rest

theorem occursIn_cons (w : Window) (c : Char) (cs : List Char) :
    w.OccursIn (c :: cs) ↔ w.Opens (c :: cs) ∨ w.OccursIn cs := by
  unfold OccursIn
  simp only [List.suffix_cons_iff, or_and_right, exists_or, exists_eq_left]

end Window

namespace Pattern

/-- The windows of a run: it stops and `k` goes on, or takes one more character. -/
def runWindows (s : CharSet) (k : Nat → List Window) : Nat → List Window
  | 0 => [[]]
  | n + 1 => k (n + 1) ++ (runWindows s k n).map (s :: ·)

/-- How matches begin, up to `n` characters; `k` says so for what comes behind the pattern. The end
of a text counts as the end of a line. -/
def windows : Pattern → (Nat → List Window) → Nat → List Window
  | .nothing, k, n => k n
  | .char _, _, 0 => [[]]
  | .char s, k, n + 1 => (k n).map (s :: ·)
  | .run s, k, n => runWindows s k n
  | .seq first second, k, n => first.windows (second.windows k) n
  | .either preferred other, k, n => preferred.windows k n ++ other.windows k n
  | .wordEdge, k, n | .lineStart, k, n => k n
  | .lineEnd, _, 0 => [[]]
  | .lineEnd, _, _ + 1 => [[.of [.one '\n']]]

/-- The first `n` characters of matches. -/
def openings (pattern : Pattern) (n : Nat) : List Window := pattern.windows (fun _ => [[]]) n

/-- Some window of `k` opens the text, however short the windows are to be. -/
def Foresees (k : Nat → List Window) (text : List Char) : Prop := ∀ n, ∃ w ∈ k n, w.Opens text

theorem foresees_cons {k l : Nat → List Window} {s : CharSet} {c : Char} {cs : List Char}
    (hc : s.mem c = true) (h : Foresees k cs) (hzero : l 0 = [[]])
    (hsucc : ∀ n, ∀ w ∈ k n, s :: w ∈ l (n + 1)) : Foresees l (c :: cs) := by
  intro n
  cases n with
  | zero => exact ⟨[], by rw [hzero]; exact List.mem_cons_self, trivial⟩
  | succ n =>
    obtain ⟨w, hw, hopens⟩ := h n
    exact ⟨s :: w, hsucc n w hw, hc, hopens⟩

theorem foresees_runWindows {s : CharSet} {k : Nat → List Window} {p q : Place}
    (h : q ∈ p.runEnds s) (hk : Foresees k (q.after ++ ['\n'])) :
    Foresees (runWindows s k) (p.after ++ ['\n']) := by
  have stopped : Foresees (runWindows s k) (q.after ++ ['\n']) := by
    intro n
    cases n with
    | zero => exact ⟨[], List.mem_cons_self, trivial⟩
    | succ n =>
      obtain ⟨w, hw, hopens⟩ := hk (n + 1)
      exact ⟨w, List.mem_append_left _ hw, hopens⟩
  obtain ⟨before, after, offset⟩ := p
  induction after generalizing before offset with
  | nil =>
    rcases Place.mem_runEnds.mp h with rfl | ⟨c, cs, hcs, _⟩
    · exact stopped
    · exact absurd hcs.symm (List.cons_ne_nil c cs)
  | cons d ds ih =>
    rcases Place.mem_runEnds.mp h with rfl | ⟨c, cs, hcs, hc, hq⟩
    · exact stopped
    · obtain ⟨rfl, rfl⟩ := List.cons.inj hcs
      refine foresees_cons hc (ih _ _ hq) rfl fun n w hw => ?_
      exact List.mem_append_right _ (List.mem_map_of_mem hw)

/-- Where a match leads from one place to another, its windows open the text of the first. -/
theorem Leads.foresees {pattern : Pattern} {k : Nat → List Window} {p q : Place}
    (h : pattern.Leads p q) (hk : Foresees k (q.after ++ ['\n'])) :
    Foresees (pattern.windows k) (p.after ++ ['\n']) := by
  induction pattern generalizing p q k with
  | nothing => exact h ▸ hk
  | char s =>
    obtain ⟨c, cs, hcs, hc, rfl⟩ := h
    rw [hcs]
    exact foresees_cons hc hk rfl fun n w hw => List.mem_map_of_mem hw
  | run s => exact foresees_runWindows h hk
  | seq first second ihfirst ihsecond =>
    obtain ⟨r, hr, hq⟩ := h
    exact ihfirst hr (ihsecond hq hk)
  | either preferred other ihpreferred ihother =>
    intro n
    rcases h with h | h
    · obtain ⟨w, hw, hopens⟩ := ihpreferred h hk n
      exact ⟨w, List.mem_append_left _ hw, hopens⟩
    · obtain ⟨w, hw, hopens⟩ := ihother h hk n
      exact ⟨w, List.mem_append_right _ hw, hopens⟩
  | wordEdge | lineStart => exact h.2 ▸ hk
  | lineEnd =>
    obtain ⟨hend, -⟩ := h
    intro n
    cases n with
    | zero => exact ⟨[], List.mem_cons_self, trivial⟩
    | succ n =>
      refine ⟨_, List.mem_cons_self, ?_⟩
      unfold Place.atLineEnd Place.next? at hend
      cases hafter : p.after with
      | nil => exact ⟨by decide, trivial⟩
      | cons c cs =>
        obtain rfl : c = '\n' := by simpa [hafter] using hend
        exact ⟨by decide, trivial⟩

/-- The pattern matches from some place in the text on, whatever stands in front of the place. -/
def MatchesIn (pattern : Pattern) (text : List Char) : Prop :=
  ∃ p q, p.after <:+ text ∧ pattern.Leads p q

theorem matchesIn_of_occurs {pattern : Pattern} {text : List Char}
    (h : pattern.occurs text = true) : pattern.MatchesIn text := by
  obtain ⟨front, rest, rfl, q, hq⟩ := occurs_iff.mp h
  exact ⟨_, q, List.suffix_append front rest, hq⟩

/-- The pattern without the first `n` of the patterns it is a chain of. -/
def later : Nat → Pattern → Pattern
  | n + 1, .seq _ second => second.later n
  | _, pattern => pattern

theorem matchesIn_later {pattern : Pattern} {text : List Char} (h : pattern.MatchesIn text)
    (n : Nat) : (pattern.later n).MatchesIn text := by
  fun_induction later n pattern with
  | case1 n first second ih =>
    obtain ⟨p, q, hp, r, hr, hq⟩ := h
    obtain ⟨mid, hmid, -⟩ := leads_iff.mp hr
    have hsuffix : r.after <:+ p.after := ⟨mid, hmid.after.symm⟩
    exact ih ⟨r, q, hsuffix.trans hp, hq⟩
  | case2 => exact h

theorem exists_opening_of_matchesIn {pattern : Pattern} {text : List Char}
    (h : pattern.MatchesIn text) (n : Nat) :
    ∃ w ∈ pattern.openings n, w.OccursIn (text ++ ['\n']) := by
  obtain ⟨p, q, ⟨front, hfront⟩, hq⟩ := h
  obtain ⟨w, hw, hopens⟩ := hq.foresees (fun _ => ⟨[], List.mem_cons_self, trivial⟩) n
  exact ⟨w, hw, p.after ++ ['\n'], ⟨front, by simp [← hfront]⟩, hopens⟩

end Pattern

namespace Window

/-- Adds what the window still asks for behind the character; nothing if it is complete. -/
def pass (c : Char) (w : Window) (rest : Option (List Window)) : Option (List Window) :=
  match w with
  | [] => none
  | s :: v => if s.mem c then (if v.isEmpty then none else rest.map (v :: ·)) else rest

theorem foldr_pass_spec {c : Char} {ws next : List Window}
    (h : ws.foldr (pass c) (some []) = some next) :
    ∀ w ∈ ws, ∃ s v, w = s :: v ∧ (s.mem c = true → v ∈ next) := by
  induction ws generalizing next with
  | nil => exact fun w hw => absurd hw List.not_mem_nil
  | cons w ws ih =>
    rw [List.foldr_cons] at h
    cases w with
    | nil => cases h
    | cons s v =>
      simp only [pass] at h
      split at h
      · split at h
        · cases h
        · obtain ⟨rest, hrest, rfl⟩ := Option.map_eq_some_iff.mp h
          refine List.forall_mem_cons.mpr ⟨⟨s, v, rfl, fun _ => List.mem_cons_self⟩, ?_⟩
          intro x hx
          obtain ⟨s', v', heq, hv'⟩ := ih hrest x hx
          exact ⟨s', v', heq, fun hc => List.mem_cons_of_mem v (hv' hc)⟩
      · rename_i hc
        exact List.forall_mem_cons.mpr ⟨⟨s, v, rfl, fun hmem => absurd hmem hc⟩, ih h⟩

/-- What windows that begin here or began before still ask for. -/
def advance (windows pending : List Window) (c : Char) : Option (List Window) :=
  (pending ++ windows).foldr (pass c) (some [])

theorem not_opens_of_advance {windows pending next : List Window} {c : Char} {cs : List Char}
    (h : advance windows pending c = some next) (hnext : ∀ v ∈ next, ¬ v.Opens cs) :
    ∀ w ∈ pending ++ windows, ¬ w.Opens (c :: cs) := by
  intro w hw hopens
  obtain ⟨s, v, rfl, hv⟩ := foldr_pass_spec h w hw
  obtain ⟨hc, hrest⟩ := hopens
  exact hnext v (hv hc) hrest

/-- Looks for all windows in a text, unless one is found. -/
def scan (windows : List Window) : List Window → List Char → Option (List Window)
  | pending, [] => some pending
  | pending, c :: cs => (advance windows pending c).bind fun next => scan windows next cs

theorem scan_append (windows pending : List Window) (xs ys : List Char) :
    scan windows pending (xs ++ ys) =
      (scan windows pending xs).bind fun next => scan windows next ys := by
  induction xs generalizing pending with
  | nil => rfl
  | cons c cs ih =>
    rw [List.cons_append, scan, scan, Option.bind_assoc]
    simp only [ih]

/-- No window stands in the text, and what is pending does not open it. -/
structure Avoids (windows pending : List Window) (text : List Char) : Prop where
  absent : ∀ w ∈ windows, ¬ w.OccursIn text
  stalled : ∀ w ∈ pending, ¬ w.Opens text

theorem avoids_of_advance {windows pending next : List Window} {c : Char} {cs : List Char}
    (hadvance : advance windows pending c = some next) (h : Avoids windows next cs) :
    Avoids windows pending (c :: cs) := by
  have hopens := not_opens_of_advance hadvance h.stalled
  constructor
  · intro w hw hoccurs
    rcases (occursIn_cons w c cs).mp hoccurs with hhere | hoccurs
    · exact hopens w (List.mem_append_right _ hw) hhere
    · exact h.absent w hw hoccurs
  · exact fun w hw => hopens w (List.mem_append_left _ hw)

/-- A scan that comes through has found nothing. -/
theorem avoids_of_scan {windows pending last : List Window} {text : List Char}
    (h : scan windows pending text = some last) (hwindows : [] ∉ windows)
    (hlast : [] ∉ last) : Avoids windows pending text := by
  have notNil : ∀ {ws : List Window}, [] ∉ ws → ∀ w ∈ ws, ¬ w.Opens [] := by
    intro ws hws w hw hopens
    cases w with
    | nil => exact hws hw
    | cons s w => exact hopens
  induction text generalizing pending with
  | nil =>
    obtain rfl := Option.some.inj h
    refine ⟨fun w hw => ?_, notNil hlast⟩
    rintro ⟨rest, hrest, hopens⟩
    rw [List.suffix_nil.mp hrest] at hopens
    exact notNil hwindows w hw hopens
  | cons c cs ih =>
    obtain ⟨next, hadvance, hnext⟩ := Option.bind_eq_some_iff.mp h
    exact avoids_of_advance hadvance (ih hnext)

end Window

end Scriptwright
