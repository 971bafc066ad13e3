import Scriptwright.Proofs.Pattern.Leads

/-!
What a pattern takes, without places: the text of a match between the character in front of it and
the text behind it. This is all that a match depends on, wherever it stands. For the edges of words
and lines the end of a text and a line feed are the same, so a pattern matches in the middle of a
longer text what it matches in the text alone.
-/
namespace Scriptwright

namespace Pattern

/-- The pattern can match `mid` behind the character `before` and in front of `rest`. -/
def Takes : Pattern → Option Char → List Char → List Char → Prop
  | .nothing, _, mid, _ => mid = []
  | .char s, _, mid, _ => ∃ c, mid = [c] ∧ s.mem c = true
  | .run s, _, mid, _ => ∀ c ∈ mid, s.mem c = true
  | .seq first second, before, mid, rest =>
    ∃ xs ys, mid = xs ++ ys ∧ first.Takes before xs (ys ++ rest) ∧
      second.Takes (xs.getLast?.or before) ys rest
  | .either preferred other, before, mid, rest =>
    preferred.Takes before mid rest ∨ other.Takes before mid rest
  | .wordEdge, before, mid, rest =>
    mid = [] ∧ (before.any Text.isWordChar != rest.head?.any Text.isWordChar) = true
  | .lineStart, before, mid, _ => mid = [] ∧ before.all (· == '\n') = true
  | .lineEnd, _, mid, rest => mid = [] ∧ rest.head?.all (· == '\n') = true

theorem leads_iff {pattern : Pattern} {p q : Place} :
    pattern.Leads p q ↔ ∃ mid, p.Passes q mid ∧ pattern.Takes p.before mid q.after := by
  induction pattern generalizing p q with
  | nothing => simp [Leads, Takes, Place.passes_nil_iff]
  | char s =>
    constructor
    · rintro ⟨c, cs, hcs, hc, rfl⟩
      exact ⟨[c], Place.passes_singleton_iff.mpr ⟨cs, hcs, rfl⟩, c, rfl, hc⟩
    · rintro ⟨_, hmid, c, rfl, hc⟩
      obtain ⟨cs, hcs, hq⟩ := Place.passes_singleton_iff.mp hmid
      exact ⟨c, cs, hcs, hc, hq⟩
  | run s => exact Place.mem_runEnds_iff
  | seq first second ihfirst ihsecond =>
    constructor
    · rintro ⟨r, hr, hq⟩
      obtain ⟨xs, hxs, hfirst⟩ := ihfirst.mp hr
      obtain ⟨ys, hys, hsecond⟩ := ihsecond.mp hq
      refine ⟨xs ++ ys, Place.passes_append_iff.mpr ⟨r, hxs, hys⟩, xs, ys, rfl, ?_, ?_⟩
      · rw [← hys.after]
        exact hfirst
      · rw [hxs.place] at hsecond
        exact hsecond
    · rintro ⟨_, hmid, xs, ys, rfl, hfirst, hsecond⟩
      obtain ⟨r, hxs, hys⟩ := Place.passes_append_iff.mp hmid
      refine ⟨r, ihfirst.mpr ⟨xs, hxs, ?_⟩, ihsecond.mpr ⟨ys, hys, ?_⟩⟩
      · rw [hys.after]
        exact hfirst
      · rw [hxs.place]
        exact hsecond
  | either preferred other ihpreferred ihother =>
    simp only [Leads, Takes, ihpreferred, ihother, and_or_left, exists_or]
  | wordEdge | lineStart | lineEnd =>
    constructor
    · rintro ⟨h, rfl⟩
      exact ⟨[], Place.passes_nil_iff.mpr rfl, rfl, h⟩
    · rintro ⟨_, hmid, rfl, h⟩
      obtain rfl := Place.passes_nil_iff.mp hmid
      exact ⟨h, rfl⟩

theorem takes_ofChars {cs mid rest : List Char} {before : Option Char} :
    (ofChars cs).Takes before mid rest ↔ mid = cs := by
  have single : ∀ {c : Char} {xs ys : List Char} {b : Option Char},
      (Pattern.char (.of [.one c])).Takes b xs ys ↔ xs = [c] := by
    intro c xs ys b
    constructor
    · rintro ⟨d, rfl, hd⟩
      have hcd : c = d := by simpa [CharSet.mem, CharSet.of, CharClass.mem] using hd
      rw [hcd]
    · rintro rfl
      exact ⟨c, rfl, by simp [CharSet.mem, CharSet.of, CharClass.mem]⟩
  induction cs generalizing before mid with
  | nil => exact Iff.rfl
  | cons c cs ih =>
    cases cs with
    | nil => exact single
    | cons d ds =>
      constructor
      · rintro ⟨xs, ys, rfl, hxs, hys⟩
        rw [single.mp hxs, ih.mp hys]
        rfl
      · rintro rfl
        exact ⟨[c], d :: ds, rfl, single.mpr rfl, ih.mpr rfl⟩

theorem takes_text {s : String} {mid rest : List Char} {before : Option Char} :
    (text s).Takes before mid rest ↔ mid = s.toList :=
  takes_ofChars

theorem takes_oneOf {ps : List Pattern} {mid rest : List Char} {before : Option Char} :
    (oneOf ps).Takes before mid rest ↔ ∃ p ∈ ps, p.Takes before mid rest := by
  induction ps with
  | nil => simp [oneOf, Takes, CharSet.mem, CharSet.of]
  | cons p ps ih =>
    cases ps with
    | nil => simp [oneOf]
    | cons q qs =>
      have hsplit : (oneOf (p :: q :: qs)).Takes before mid rest ↔
          p.Takes before mid rest ∨ (oneOf (q :: qs)).Takes before mid rest := Iff.rfl
      rw [hsplit, ih]
      simp only [List.mem_cons, exists_eq_or_imp]

theorem takes_someOf {s : CharSet} {mid rest : List Char} {before : Option Char} :
    (someOf s).Takes before mid rest ↔ mid ≠ [] ∧ ∀ c ∈ mid, s.mem c = true := by
  constructor
  · rintro ⟨_, ys, rfl, ⟨c, rfl, hc⟩, hys⟩
    exact ⟨List.cons_ne_nil c ys, List.forall_mem_cons.mpr ⟨hc, hys⟩⟩
  · rintro ⟨hne, hmem⟩
    cases mid with
    | nil => exact absurd rfl hne
    | cons c mid =>
      obtain ⟨hc, hmem⟩ := List.forall_mem_cons.mp hmem
      exact ⟨[c], mid, rfl, ⟨c, rfl, hc⟩, hmem⟩

theorem takes_wordEdge_behind {xs mid rest : List Char} {before : Option Char} (hne : xs ≠ [])
    (hxs : ∀ c ∈ xs, Text.isWordChar c = true) :
    wordEdge.Takes (xs.getLast?.or before) mid rest ↔
      mid = [] ∧ rest.head?.any Text.isWordChar = false := by
  have hlast : (xs.getLast?.or before).any Text.isWordChar = true := by
    rw [List.getLast?_eq_some_getLast hne]
    exact hxs _ (List.getLast_mem hne)
  simp [Takes, hlast]

variable {pattern : Pattern} {before : Option Char} {mid rest more : List Char}

end Pattern

end Scriptwright
