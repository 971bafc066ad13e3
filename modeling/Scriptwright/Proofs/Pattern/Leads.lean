import Scriptwright.Pattern.Search
import Scriptwright.Proofs.Text.Search

/-!
What a pattern matches, as a relation between places. The matcher tries the matches in an order of
preference; that there is one, and which text a match covers, does not depend on this order.
-/
namespace Scriptwright

namespace Place

theorem reach_eq_append (s : CharSet) (before : Option Char) (offset : Nat) (reached : List Place)
    (cs : List Char) :
    reach s before offset reached cs = reach s before offset [] cs ++ reached := by
  induction cs generalizing before offset reached with
  | nil => rfl
  | cons c cs ih =>
    unfold reach
    split
    · rw [ih, ih _ _ [_], List.append_assoc]
      rfl
    · rfl

theorem runEnds_of_mem {s : CharSet} {p : Place} {c : Char} {cs : List Char}
    (h : p.after = c :: cs) (hc : s.mem c = true) :
    p.runEnds s = (p.step c cs).runEnds s ++ [p] := by
  obtain ⟨before, after, offset⟩ := p
  obtain rfl : after = c :: cs := h
  simp only [runEnds, reach, hc, if_true]
  exact reach_eq_append ..

theorem runEnds_of_not_mem {s : CharSet} {p : Place} (h : ∀ c ∈ p.after.head?, s.mem c = false) :
    p.runEnds s = [p] := by
  obtain ⟨before, after, offset⟩ := p
  cases after with
  | nil => rfl
  | cons c cs =>
    have hc : s.mem c = false := h c rfl
    simp [runEnds, reach, hc]

theorem mem_runEnds {s : CharSet} {p q : Place} :
    q ∈ p.runEnds s ↔
      q = p ∨ ∃ c cs, p.after = c :: cs ∧ s.mem c = true ∧ q ∈ (p.step c cs).runEnds s := by
  cases hafter : p.after with
  | nil => simp [runEnds_of_not_mem, hafter]
  | cons c cs =>
    by_cases hc : s.mem c = true
    · simp [runEnds_of_mem hafter hc, hc, or_comm]
    · have hstop : ∀ d ∈ p.after.head?, s.mem d = false := by simpa [hafter] using hc
      simp [runEnds_of_not_mem hstop, hc]

/-- The place behind the characters `mid`, in front of `rest`. -/
def past (p : Place) (mid rest : List Char) : Place :=
  ⟨mid.getLast?.or p.before, rest, p.offset + Text.byteLength mid⟩

theorem past_nil (p : Place) : p.past [] p.after = p := by
  simp [past, Text.byteLength]

theorem past_past (p : Place) (xs ys between rest : List Char) :
    (p.past xs between).past ys rest = p.past (xs ++ ys) rest := by
  simp [past, Text.byteLength_append, List.getLast?_append, Option.or_assoc, Nat.add_assoc]

theorem step_eq_past (p : Place) (c : Char) (cs : List Char) : p.step c cs = p.past [c] cs := by
  simp [step, past, Text.byteLength]

theorem step_past (p : Place) (c : Char) (mid rest : List Char) :
    (p.step c (mid ++ rest)).past mid rest = p.past (c :: mid) rest := by
  rw [step_eq_past, past_past]
  rfl

theorem step_offset (p : Place) (c : Char) (mid rest : List Char) :
    (p.step c (mid ++ rest)).offset + Text.byteLength mid = (p.past (c :: mid) rest).offset := by
  rw [← step_past]
  rfl

/-- Between the two places stand the characters `mid`. -/
structure Passes (p q : Place) (mid : List Char) : Prop where
  after : p.after = mid ++ q.after
  place : q = p.past mid q.after

theorem passes_past {p : Place} {mid rest : List Char} (h : p.after = mid ++ rest) :
    p.Passes (p.past mid rest) mid :=
  ⟨h, rfl⟩

theorem passes_nil_iff {p q : Place} : p.Passes q [] ↔ q = p := by
  constructor
  · rintro ⟨hafter, hq⟩
    rw [hq, ← List.nil_append q.after, ← hafter, past_nil]
  · rintro rfl
    exact ⟨rfl, (past_nil q).symm⟩

theorem passes_append_iff {p q : Place} {xs ys : List Char} :
    p.Passes q (xs ++ ys) ↔ ∃ r, p.Passes r xs ∧ r.Passes q ys := by
  constructor
  · rintro ⟨hafter, hq⟩
    rw [List.append_assoc] at hafter
    refine ⟨p.past xs (ys ++ q.after), passes_past hafter, rfl, ?_⟩
    rw [past_past, ← hq]
  · rintro ⟨r, ⟨hafter, hr⟩, ⟨hafter', hq⟩⟩
    refine ⟨by rw [hafter, hafter', List.append_assoc], ?_⟩
    rw [hq, hr, past_past]
    rfl

theorem passes_singleton_iff {p q : Place} {c : Char} :
    p.Passes q [c] ↔ ∃ cs, p.after = c :: cs ∧ q = p.step c cs := by
  constructor
  · rintro ⟨hafter, hq⟩
    exact ⟨q.after, hafter, hq.trans (p.step_eq_past c q.after).symm⟩
  · rintro ⟨cs, hcs, rfl⟩
    exact ⟨hcs, p.step_eq_past c cs⟩

theorem Passes.unique {p q : Place} {xs ys : List Char} (h : p.Passes q xs) (h' : p.Passes q ys) :
    xs = ys :=
  List.append_cancel_right (h.after.symm.trans h'.after)

theorem mem_runEnds_iff {s : CharSet} {p q : Place} :
    q ∈ p.runEnds s ↔ ∃ mid, p.Passes q mid ∧ ∀ c ∈ mid, s.mem c = true := by
  have stopped : ∀ {p q : Place}, q = p →
      ∃ mid, p.Passes q mid ∧ ∀ c ∈ mid, s.mem c = true :=
    fun h => ⟨[], passes_nil_iff.mpr h, by simp⟩
  constructor
  · obtain ⟨before, after, offset⟩ := p
    induction after generalizing before offset with
    | nil =>
      intro h
      rcases mem_runEnds.mp h with hq | ⟨c, cs, hcs, -⟩
      · exact stopped hq
      · cases hcs
    | cons d ds ih =>
      intro h
      rcases mem_runEnds.mp h with hq | ⟨c, cs, hcs, hc, hq⟩
      · exact stopped hq
      · obtain ⟨rfl, rfl⟩ := List.cons.inj hcs
        obtain ⟨mid, hmid, hmem⟩ := ih _ _ hq
        refine ⟨[d] ++ mid, passes_append_iff.mpr ⟨_, ?_, hmid⟩,
          List.forall_mem_cons.mpr ⟨hc, hmem⟩⟩
        exact passes_singleton_iff.mpr ⟨ds, rfl, rfl⟩
  · rintro ⟨mid, hmid, hmem⟩
    induction mid generalizing p with
    | nil => exact mem_runEnds.mpr (.inl (passes_nil_iff.mp hmid))
    | cons c mid ih =>
      obtain ⟨hc, hmem⟩ := List.forall_mem_cons.mp hmem
      have hsplit : p.Passes q ([c] ++ mid) := hmid
      obtain ⟨r, hr, hq⟩ := passes_append_iff.mp hsplit
      obtain ⟨cs, hcs, rfl⟩ := passes_singleton_iff.mp hr
      exact mem_runEnds.mpr (.inr ⟨c, cs, hcs, hc, ih hq hmem⟩)

end Place

namespace Pattern

/-- The pattern can match what lies between two places. -/
def Leads : Pattern → Place → Place → Prop
  | .nothing, p, q => q = p
  | .char s, p, q => ∃ c cs, p.after = c :: cs ∧ s.mem c = true ∧ q = p.step c cs
  | .run s, p, q => q ∈ p.runEnds s
  | .seq first second, p, q => ∃ r, first.Leads p r ∧ second.Leads r q
  | .either preferred other, p, q => preferred.Leads p q ∨ other.Leads p q
  | .wordEdge, p, q => p.atWordEdge = true ∧ q = p
  | .lineStart, p, q => p.atLineStart = true ∧ q = p
  | .lineEnd, p, q => p.atLineEnd = true ∧ q = p

theorem exists_of_matchThen {α : Type} {pattern : Pattern} {p : Place} {k : Place → Option α}
    {x : α} (h : pattern.matchThen p k = some x) : ∃ q, pattern.Leads p q ∧ k q = some x := by
  induction pattern generalizing p k x with
  | nothing => exact ⟨p, rfl, h⟩
  | char s =>
    unfold matchThen at h
    split at h
    · cases h
    · rename_i c cs hcs
      split at h
      · rename_i hc
        exact ⟨p.step c cs, ⟨c, cs, hcs, hc, rfl⟩, h⟩
      · cases h
  | run s => exact List.exists_of_findSome?_eq_some h
  | seq first second ihfirst ihsecond =>
    obtain ⟨r, hr, hk⟩ := ihfirst h
    obtain ⟨q, hq, hx⟩ := ihsecond hk
    exact ⟨q, ⟨r, hr, hq⟩, hx⟩
  | either preferred other ihpreferred ihother =>
    unfold matchThen at h
    cases hp : preferred.matchThen p k with
    | some y =>
      obtain ⟨q, hq, hy⟩ := ihpreferred hp
      rw [hp] at h
      exact ⟨q, .inl hq, hy.trans h⟩
    | none =>
      rw [hp] at h
      obtain ⟨q, hq, hx⟩ := ihother h
      exact ⟨q, .inr hq, hx⟩
  | wordEdge | lineStart | lineEnd =>
    unfold matchThen at h
    split at h
    · rename_i hp
      exact ⟨p, ⟨hp, rfl⟩, h⟩
    · cases h

/-- The matcher finds something wherever a match leads to a place that is accepted. -/
theorem isSome_matchThen_iff {α : Type} {pattern : Pattern} {p : Place} {k : Place → Option α} :
    (pattern.matchThen p k).isSome ↔ ∃ q, pattern.Leads p q ∧ (k q).isSome := by
  induction pattern generalizing p k with
  | nothing => simp [matchThen, Leads]
  | char s =>
    unfold matchThen Leads
    cases p.after with
    | nil => simp
    | cons c cs =>
      constructor
      · intro h
        by_cases hc : s.mem c = true
        · exact ⟨_, ⟨c, cs, rfl, hc, rfl⟩, by simpa [hc] using h⟩
        · simp [hc] at h
      · rintro ⟨q, ⟨d, ds, hds, hd, rfl⟩, hk⟩
        obtain ⟨rfl, rfl⟩ := List.cons.inj hds
        simpa [hd] using hk
  | run s =>
    unfold matchThen Leads
    rw [List.findSome?_isSome_iff]
  | seq first second ihfirst ihsecond =>
    unfold matchThen Leads
    rw [ihfirst]
    constructor
    · rintro ⟨r, hr, hk⟩
      obtain ⟨q, hq, hx⟩ := ihsecond.mp hk
      exact ⟨q, ⟨r, hr, hq⟩, hx⟩
    · rintro ⟨q, ⟨r, hr, hq⟩, hx⟩
      exact ⟨r, hr, ihsecond.mpr ⟨q, hq, hx⟩⟩
  | either preferred other ihpreferred ihother =>
    unfold matchThen Leads
    simp only [or_and_right, exists_or]
    rw [← ihpreferred, ← ihother]
    cases preferred.matchThen p k <;> simp
  | wordEdge | lineStart | lineEnd =>
    unfold matchThen Leads
    split <;> simp_all

theorem occursFrom_iff {pattern : Pattern} {before : Option Char} {offset : Nat}
    {cs : List Char} :
    pattern.occursFrom before offset cs = true ↔
      ∃ front rest, cs = front ++ rest ∧ ∃ q,
        pattern.Leads ⟨front.getLast?.or before, rest, offset + Text.byteLength front⟩ q := by
  have here : ∀ p, (pattern.matchAt? p).isSome ↔ ∃ q, pattern.Leads p q := by
    intro p
    simp [matchAt?, isSome_matchThen_iff]
  induction cs generalizing before offset with
  | nil =>
    rw [occursFrom, here]
    constructor
    · rintro ⟨q, hq⟩
      exact ⟨[], [], rfl, q, hq⟩
    · rintro ⟨front, rest, hsplit, q, hq⟩
      obtain ⟨rfl, rfl⟩ := List.append_eq_nil_iff.mp hsplit.symm
      exact ⟨q, hq⟩
  | cons c cs ih =>
    rw [occursFrom, Bool.or_eq_true]
    refine (or_congr (here _) ih).trans ?_
    constructor
    · rintro (⟨q, hq⟩ | ⟨front, rest, rfl, q, hq⟩)
      · exact ⟨[], c :: cs, rfl, q, hq⟩
      · refine ⟨c :: front, rest, rfl, q, ?_⟩
        rw [Text.byteLength_cons, ← Nat.add_assoc, List.getLast?_cons]
        cases hfront : front.getLast? <;> simpa [hfront] using hq
    · rintro ⟨front, rest, hsplit, q, hq⟩
      cases front with
      | nil =>
        rw [List.nil_append] at hsplit
        exact .inl ⟨q, by simpa [hsplit, Text.byteLength] using hq⟩
      | cons d front =>
        obtain ⟨rfl, rfl⟩ := List.cons.inj hsplit
        refine .inr ⟨front, rest, rfl, q, ?_⟩
        rw [Text.byteLength_cons, ← Nat.add_assoc, List.getLast?_cons] at hq
        cases hfront : front.getLast? <;> simpa [hfront] using hq

/-- A pattern occurs in a text if it leads anywhere from one of its places. -/
theorem occurs_iff {pattern : Pattern} {text : List Char} :
    pattern.occurs text = true ↔ ∃ front rest, text = front ++ rest ∧
      ∃ q, pattern.Leads ⟨front.getLast?, rest, Text.byteLength front⟩ q := by
  simp [occurs, occursFrom_iff]

end Pattern

theorem takeBytes_eq (taken mid rest : List Char) :
    takeBytes taken (Text.byteLength mid) (mid ++ rest) = taken.reverse ++ mid := by
  induction mid generalizing taken with
  | nil => cases rest <;> simp [takeBytes, Text.byteLength]
  | cons c mid ih =>
    have hsize : Text.byteLength (c :: mid) ≠ 0 := by
      have := c.utf8Size_pos
      rw [Text.byteLength_cons]
      omega
    rw [List.cons_append, takeBytes, if_neg hsize, Text.byteLength_cons, Nat.add_sub_cancel_left,
      ih]
    simp

end Scriptwright
