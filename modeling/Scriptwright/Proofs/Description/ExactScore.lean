import Scriptwright.Proofs.Description.Complexity
import Scriptwright.Proofs.Rounding.Error

/-!
The score with decimal weights as they are written. Three tenths and one tenth are no binary
fractions, so the sum of floats strays from the exact score, but never by as much as a tenth. It can
go wrong only where the exact score is at one of the two bounds, and there only upwards.
-/
namespace Scriptwright.Description

open Rounding

def tallyOf (vocabulary : Vocabulary) (text : List Char) (intent : Intent)
    (entities : List Entity) : Tally where
  simple := vocabulary.simpleTriggers.countP (Text.mentions text)
  medium := vocabulary.mediumTriggers.countP (Text.mentions text)
  complex := vocabulary.complexTriggers.countP (Text.mentions text)
  actions := intent.actions.length
  objects := intent.objects.length
  entities := entities.length
  integration := intent.primary.isIntegration
  secondary := intent.secondary.length

theorem complexityScore_eq (vocabulary : Vocabulary) (text : List Char) (intent : Intent)
    (entities : List Entity) : complexityScore vocabulary text intent entities =
      (tallyOf vocabulary text intent entities).score := rfl

/-- The complexity that an exact score stands for. -/
def exactComplexity (x : ℚ) : Complexity :=
  if x ≤ 0 then .simple else if x ≤ 3 then .medium else .complex

namespace Tally

variable {t : Tally}

/-- The score without any rounding. -/
def exact (t : Tally) : ℚ :=
  -t.simple + t.medium + 2 * t.complex + t.actions * (1 / 2) + t.objects * (3 / 10) +
    t.entities * (1 / 10) + (if t.integration then 1 else 0) + t.secondary * (1 / 2)

/-- The exact score in tenths. -/
def tenths (t : Tally) : ℤ :=
  -(10 * t.simple) + 10 * t.medium + 20 * t.complex + 5 * t.actions + 3 * t.objects + t.entities +
    (if t.integration then 10 else 0) + 5 * t.secondary

theorem exact_eq (t : Tally) : t.exact = t.tenths / 10 := by
  unfold exact tenths
  push_cast
  split_ifs <;> ring

/-- No count is so great that rounding could move a sum by much. -/
structure Moderate (t : Tally) : Prop where
  simple : t.simple ≤ 2 ^ 32
  medium : t.medium ≤ 2 ^ 32
  complex : t.complex ≤ 2 ^ 32
  actions : t.actions ≤ 2 ^ 32
  objects : t.objects ≤ 2 ^ 32
  entities : t.entities ≤ 2 ^ 32
  secondary : t.secondary ≤ 2 ^ 32

end Tally

section
variable {n : ℕ} {c : Float} {w z : ℚ}

theorem near_count (h : n ≤ 2 ^ 32) : Near 0 1 n.toUInt64.toFloat n := by
  refine near_of_denotes (denotes_count (h.trans_lt (by norm_num))) ?_
  rw [Nat.cast_one, one_mul]
  exact abs_count_le h

theorem near_weighted (hn : n ≤ 2 ^ 32) (hc : Denotes c w) (hz : |z| ≤ 1)
    (hclose : |w - z| ≤ 2 ^ (-48 : ℤ)) : Near 2 1 (n.toUInt64.toFloat * c) (n * z) := by
  refine near_mul (denotes_count (hn.trans_lt (by norm_num))) hc ?_ (by norm_num) ?_
  · rw [abs_mul, Nat.cast_one, one_mul]
    exact (mul_le_of_le_one_right (abs_nonneg _) hz).trans (abs_count_le hn)
  · rw [← mul_sub, abs_mul]
    refine (mul_le_mul (abs_count_le hn) hclose (abs_nonneg _) (by norm_num)).trans_eq ?_
    norm_num

theorem near_halves (h : n ≤ 2 ^ 32) : Near 2 1 (n.toUInt64.toFloat * 0.5) (n * (1 / 2)) :=
  near_weighted h denotes_half (by norm_num [abs_le]) (by norm_num)

theorem near_three_tenths (h : n ≤ 2 ^ 32) :
    Near 2 1 (n.toUInt64.toFloat * 0.3) (n * (3 / 10)) :=
  near_weighted h denotes_three_tenths (by norm_num [abs_le]) (by norm_num [abs_le])

theorem near_tenths (h : n ≤ 2 ^ 32) : Near 2 1 (n.toUInt64.toFloat * 0.1) (n * (1 / 10)) :=
  near_weighted h denotes_tenth (by norm_num [abs_le]) (by norm_num [abs_le])

theorem near_negated (h : n ≤ 2 ^ 32) : Near 0 1 (-n.toUInt64.toFloat) (-n) := by
  refine near_of_denotes (denotes_neg_count h) ?_
  rw [abs_neg, Nat.cast_one, one_mul]
  exact abs_count_le h

theorem near_doubled (h : n ≤ 2 ^ 32) : Near 2 2 (2.0 * n.toUInt64.toFloat) (2 * n) := by
  refine near_mul denotes_two (denotes_count (h.trans_lt (by norm_num))) ?_ (by norm_num) ?_
  · rw [abs_mul, abs_two]
    exact mul_le_mul_of_nonneg_left (abs_count_le h) (by norm_num)
  · rw [sub_self, abs_zero]
    exact (two_zpow_pos _).le

theorem near_add_ite {m k : ℕ} {a : Float} {x : ℚ} (h : Near m k a x) (hk : k + 1 ≤ 16)
    (hm : m ≤ 2 ^ 16) (p : Bool) :
    Near (m + 1) (k + 1) (if p then a + 1.0 else a) (x + if p then 1 else 0) := by
  cases p with
  | true => exact h.add (near_of_denotes denotes_one (by norm_num)) hk hm
  | false => simpa using h.weaken m.le_succ k.le_succ

theorem halves_negated (h : n ≤ 2 ^ 32) : Halves (-n.toUInt64.toFloat) (-(2 * n)) :=
  halves_of_denotes (denotes_neg_count h) (by push_cast; ring)

theorem halves_count (h : n ≤ 2 ^ 32) : Halves n.toUInt64.toFloat (2 * n) :=
  halves_of_denotes (denotes_count (h.trans_lt (by norm_num))) (by push_cast; ring)

theorem halves_doubled (h : n ≤ 2 ^ 32) : Halves (2.0 * n.toUInt64.toFloat) (4 * n) := by
  have htame : Tame (2 * n : ℚ) := by
    refine tame_of_abs_le (k := 33) (by norm_num) ?_
    rw [abs_mul, abs_two]
    refine (mul_le_mul_of_nonneg_left (abs_count_le h) (by norm_num)).trans ?_
    norm_num
  have hround : rounded (2 * n : ℚ) = 2 * n := by
    have hwhole := rounded_natCast (n := 2 * n) (by omega)
    rwa [Nat.cast_mul, Nat.cast_ofNat] at hwhole
  have hproduct := denotes_two.mul (denotes_count (h.trans_lt (by norm_num))) htame
  rw [hround] at hproduct
  exact halves_of_denotes hproduct (by push_cast; ring)

theorem halves_halved (h : n ≤ 2 ^ 32) : Halves (n.toUInt64.toFloat * 0.5) n :=
  halves_mul (z := 1 / 2) h denotes_half (by norm_num) (by norm_num) (by norm_num)
    (by push_cast; ring)

theorem halves_three_tenths (h : 5 * n ≤ 2 ^ 32) :
    Halves ((5 * n).toUInt64.toFloat * 0.3) (3 * n) :=
  halves_mul (z := 3 / 10) h denotes_three_tenths (by norm_num) (by norm_num) (by norm_num [abs_lt])
    (by push_cast; ring)

theorem halves_tenths (h : 5 * n ≤ 2 ^ 32) : Halves ((5 * n).toUInt64.toFloat * 0.1) n :=
  halves_mul (z := 1 / 10) h denotes_tenth (by norm_num) (by norm_num) (by norm_num [abs_lt])
    (by push_cast; ring)

theorem halves_add_ite {a : Float} {i : ℤ} (h : Halves a i) (hlt : |i + 2| < 2 ^ 53) (p : Bool) :
    Halves (if p then a + 1.0 else a) (i + if p then 2 else 0) := by
  cases p with
  | true => exact h.add (halves_of_denotes denotes_one (by norm_num)) hlt
  | false => simpa using h

end

/-- Seventeen roundings of a unit at most part the score from the exact one. -/
theorem Tally.Moderate.near_score {t : Tally} (h : t.Moderate) : Near 17 9 t.score t.exact := by
  have hplain := (near_negated h.simple).add (near_count h.medium) (by norm_num) (by norm_num)
  have htriggers := hplain.add (near_doubled h.complex) (by norm_num) (by norm_num)
  have hactions := htriggers.add (near_halves h.actions) (by norm_num) (by norm_num)
  have hobjects := hactions.add (near_three_tenths h.objects) (by norm_num) (by norm_num)
  have hentities := hobjects.add (near_tenths h.entities) (by norm_num) (by norm_num)
  have hintegration := near_add_ite hentities (by norm_num) (by norm_num) t.integration
  exact hintegration.add (near_halves h.secondary) (by norm_num) (by norm_num)

/-- Where tenths come in fives only, nothing is rounded at all. -/
theorem Tally.Moderate.denotes_score {t : Tally} (h : t.Moderate) {o e : ℕ}
    (hobjects : t.objects = 5 * o) (hentities : t.entities = 5 * e) : Denotes t.score t.exact := by
  obtain ⟨hs, hm, hc, ha, ho, he, hn⟩ := h
  have hthree := halves_three_tenths (hobjects ▸ ho)
  have hone := halves_tenths (hentities ▸ he)
  rw [← hobjects] at hthree
  rw [← hentities] at hone
  have hplain := (halves_negated hs).add (halves_count hm) (by rw [abs_lt]; omega)
  have htriggers := hplain.add (halves_doubled hc) (by rw [abs_lt]; omega)
  have hactions := htriggers.add (halves_halved ha) (by rw [abs_lt]; omega)
  have hfiles := hactions.add hthree (by rw [abs_lt]; omega)
  have hspans := hfiles.add hone (by rw [abs_lt]; omega)
  have hintegration := halves_add_ite hspans (by rw [abs_lt]; omega) t.integration
  have hscore := hintegration.add (halves_halved hn) (by rw [abs_lt]; split <;> omega)
  have hexact : t.exact = (-(2 * t.simple) + 2 * t.medium + 4 * t.complex + t.actions + 3 * o + e +
      (if t.integration then 2 else 0) + t.secondary : ℤ) * 2 ^ (-1 : ℤ) := by
    rw [Tally.exact, hobjects, hentities, zpow_neg_one]
    push_cast
    split_ifs <;> ring
  rw [hexact]
  exact hscore

theorem complexityOf_eq {a : Float} {x : ℚ} (hzero : a ≤ 0.0 ↔ x ≤ 0) (hthree : a ≤ 3.0 ↔ x ≤ 3) :
    complexityOf a = exactComplexity x := by
  unfold complexityOf exactComplexity
  simp only [hzero, hthree]

section
variable {t : Tally} {a : Float} {c : Float} {k : ℕ} {m : ℤ}

theorem Tally.exact_le_iff (t : Tally) (m : ℤ) : t.exact ≤ m ↔ t.tenths ≤ 10 * m := by
  rw [t.exact_eq, div_le_iff₀ (by norm_num), mul_comm]
  exact_mod_cast Iff.rfl

theorem Tally.exact_eq_iff (t : Tally) (m : ℤ) : t.exact = m ↔ t.tenths = 10 * m := by
  rw [t.exact_eq, div_eq_iff (by norm_num), mul_comm]
  exact_mod_cast Iff.rfl

theorem le_iff_of_near (h : Near 17 k a t.exact) (hc : Denotes c m) (hne : t.tenths ≠ 10 * m) :
    a ≤ c ↔ t.exact ≤ m := by
  rw [t.exact_le_iff]
  rcases hne.lt_or_gt with hlt | hgt
  · refine iff_of_true (h.le hc ?_) hlt.le
    have hcast : (t.tenths + 1 : ℚ) ≤ 10 * m := by exact_mod_cast hlt
    rw [t.exact_eq]
    norm_num
    linarith
  · refine iff_of_false (h.not_le hc ?_) (not_le_of_gt hgt)
    have hcast : (10 * m + 1 : ℚ) ≤ t.tenths := by exact_mod_cast hgt
    rw [t.exact_eq]
    norm_num
    linarith

theorem Tally.exact_nonpos_iff (t : Tally) : t.exact ≤ 0 ↔ t.tenths ≤ 0 := by
  exact_mod_cast t.exact_le_iff 0

theorem Tally.exact_le_three_iff (t : Tally) : t.exact ≤ 3 ↔ t.tenths ≤ 30 := by
  exact_mod_cast t.exact_le_iff 3

theorem nonpos_iff_of_near (h : Near 17 k a t.exact) (hne : t.tenths ≠ 0) :
    a ≤ 0.0 ↔ t.exact ≤ 0 := by
  exact_mod_cast le_iff_of_near h (m := 0) (by exact_mod_cast denotes_zero) hne

theorem le_three_iff_of_near (h : Near 17 k a t.exact) (hne : t.tenths ≠ 30) :
    a ≤ 3.0 ↔ t.exact ≤ 3 := by
  exact_mod_cast le_iff_of_near h (m := 3) (by exact_mod_cast denotes_three) hne

theorem level_le_one (h : a ≤ 3.0) : (complexityOf a).level ≤ 1 := by
  unfold complexityOf
  rw [if_pos h]
  split <;> decide

theorem one_le_level (h : ¬ a ≤ 0.0) : 1 ≤ (complexityOf a).level := by
  unfold complexityOf
  rw [if_neg h]
  split <;> decide

theorem le_three_of_medium (h : complexityOf a = .medium) : a ≤ 3.0 := by
  unfold complexityOf at h
  split_ifs at h with _ hthree
  exact hthree

/-- Only at a bound does it matter what rounding does to the score. -/
theorem complexityOf_iff_of_near (h : Near 17 k a t.exact) :
    complexityOf a = exactComplexity t.exact ↔
      (t.exact = 0 → a ≤ 0.0) ∧ (t.exact = 3 → a ≤ 3.0) := by
  constructor
  · intro hsame
    refine ⟨fun hexact => ?_, fun hexact => ?_⟩
    · have hsimple : exactComplexity t.exact = .simple := if_pos hexact.le
      by_contra hpos
      have hlevel := one_le_level hpos
      rw [hsame, hsimple] at hlevel
      exact absurd hlevel (by decide)
    · have hmedium : exactComplexity t.exact = .medium := by
        rw [hexact]
        norm_num [exactComplexity]
      exact le_three_of_medium (hsame.trans hmedium)
  · rintro ⟨hzero, hthree⟩
    refine complexityOf_eq ?_ ?_
    · by_cases hbound : t.tenths = 0
      · have hexact : t.exact = 0 := by exact_mod_cast (t.exact_eq_iff 0).mpr hbound
        exact iff_of_true (hzero hexact) hexact.le
      · exact nonpos_iff_of_near h hbound
    · by_cases hbound : t.tenths = 30
      · have hexact : t.exact = 3 := by exact_mod_cast (t.exact_eq_iff 3).mpr hbound
        exact iff_of_true (hthree hexact) hexact.le
      · exact le_three_iff_of_near h hbound

theorem complexityOf_of_apart (h : Near 17 k a t.exact) (hzero : t.tenths ≠ 0)
    (hthree : t.tenths ≠ 30) : complexityOf a = exactComplexity t.exact :=
  complexityOf_eq (nonpos_iff_of_near h hzero) (le_three_iff_of_near h hthree)

theorem level_bounds_of_near (h : Near 17 k a t.exact) :
    (exactComplexity t.exact).level ≤ (complexityOf a).level ∧
      (complexityOf a).level ≤ (exactComplexity t.exact).level + 1 := by
  by_cases hzero : t.tenths = 0
  · have hlevel := level_le_one ((le_three_iff_of_near h (by omega)).mpr
      (t.exact_le_three_iff.mpr (by omega)))
    rw [exactComplexity, if_pos (t.exact_nonpos_iff.mpr hzero.le)]
    exact ⟨Nat.zero_le _, hlevel⟩
  by_cases hthree : t.tenths = 30
  · have hpos : ¬ t.exact ≤ 0 := mt t.exact_nonpos_iff.mp (by omega)
    have hlevel := one_le_level (mt (nonpos_iff_of_near h hzero).mp hpos)
    rw [exactComplexity, if_neg hpos, if_pos (t.exact_le_three_iff.mpr hthree.le)]
    refine ⟨hlevel, ?_⟩
    cases complexityOf a <;> decide
  · rw [complexityOf_of_apart h hzero hthree]
    exact ⟨le_rfl, Nat.le_succ _⟩

theorem exactComplexity_of_lt (h : 30 < t.tenths) : exactComplexity t.exact = .complex := by
  rw [exactComplexity, if_neg (mt t.exact_nonpos_iff.mp (by omega)),
    if_neg (mt t.exact_le_three_iff.mp (by omega))]

end

/-- The tally with no count for more complexity above two to the 32. -/
def Tally.cap (t : Tally) : Tally :=
  { t with
    medium := min t.medium (2 ^ 32)
    complex := min t.complex (2 ^ 32)
    actions := min t.actions (2 ^ 32)
    objects := min t.objects (2 ^ 32)
    entities := min t.entities (2 ^ 32)
    secondary := min t.secondary (2 ^ 32) }

section
variable {t : Tally}

theorem Tally.moderate_cap (h : t.simple < 2 ^ 28) : t.cap.Moderate := by
  constructor <;> simp only [cap] <;> omega

theorem Tally.cap_within (t : Tally) : t.cap.Within t := by
  constructor <;> simp only [cap] <;> first | omega | rfl | exact id

theorem Tally.counts_of_tenths_le (hsimple : t.simple < 2 ^ 28) (h : t.tenths ≤ 30) :
    t.medium < 2 ^ 32 ∧ t.complex < 2 ^ 32 ∧ t.actions < 2 ^ 32 ∧ t.objects < 2 ^ 32 ∧
      t.entities < 2 ^ 32 ∧ t.secondary < 2 ^ 32 := by
  unfold tenths at h
  split at h <;> refine ⟨?_, ?_, ?_, ?_, ?_, ?_⟩ <;> omega

theorem Tally.lt_tenths_cap (h : t.simple < 2 ^ 28) (hgreat : ¬ t.Moderate) :
    30 < t.cap.tenths := by
  by_contra hsmall
  have hcount : ∀ {n : ℕ}, min n (2 ^ 32) < 2 ^ 32 → n ≤ 2 ^ 32 :=
    fun hmin => (min_lt_iff.mp hmin).elim le_of_lt fun hself => absurd hself (lt_irrefl _)
  obtain ⟨hmedium, hcomplex, hactions, hobjects, hentities, hsecondary⟩ :=
    counts_of_tenths_le (t := t.cap) h (not_lt.mp hsmall)
  exact hgreat ⟨h.le.trans (by norm_num), hcount hmedium, hcount hcomplex, hcount hactions,
    hcount hobjects, hcount hentities, hcount hsecondary⟩

theorem Tally.Within.tenths_le {u : Tally} (h : t.Within u) : t.tenths ≤ u.tenths := by
  obtain ⟨hsimple, hmedium, hcomplex, hactions, hobjects, hentities, hintegration, hsecondary⟩ := h
  have hplus : (if t.integration then 10 else 0 : ℤ) ≤ if u.integration then 10 else 0 := by
    cases hmore : t.integration with
    | true => rw [hintegration hmore]
    | false =>
      rw [if_neg Bool.false_ne_true]
      split_ifs <;> norm_num
  unfold tenths
  rw [hsimple]
  generalize (if t.integration then 10 else 0 : ℤ) = plus at hplus ⊢
  generalize (if u.integration then 10 else 0 : ℤ) = plus' at hplus ⊢
  omega

theorem Tally.complexity_of_great (h : t.simple < 2 ^ 28) (htotal : t.total < 2 ^ 64)
    (hgreat : ¬ t.Moderate) : complexityOf t.score = .complex ∧
      exactComplexity t.exact = .complex ∧ 3 < t.exact := by
  have hcap := lt_tenths_cap h hgreat
  have hcomplex : complexityOf t.cap.score = .complex := by
    rw [complexityOf_of_apart (moderate_cap h).near_score (by omega) (by omega),
      exactComplexity_of_lt hcap]
  have hlevel := level_le_of_below (t.cap_within.score htotal)
  rw [hcomplex] at hlevel
  have hexact : ¬ t.exact ≤ 3 :=
    mt t.exact_le_three_iff.mp (hcap.trans_le t.cap_within.tenths_le).not_ge
  refine ⟨?_, exactComplexity_of_lt (hcap.trans_le t.cap_within.tenths_le), not_le.mp hexact⟩
  revert hlevel
  cases complexityOf t.score <;> decide

/-- Where the score is at a bound and the objects come in fives, so do the entities. -/
theorem Tally.five_dvd_entities (h : t.tenths = 0 ∨ t.tenths = 30) (hobjects : 5 ∣ t.objects) :
    5 ∣ t.entities := by
  unfold tenths at h
  split at h <;> omega

theorem Tally.Moderate.complexityOf_score_of_fives (h : t.Moderate) (hobjects : 5 ∣ t.objects) :
    complexityOf t.score = exactComplexity t.exact := by
  by_cases hbound : t.tenths = 0 ∨ t.tenths = 30
  · obtain ⟨e, he⟩ := five_dvd_entities hbound hobjects
    obtain ⟨o, ho⟩ := hobjects
    have hdenotes := h.denotes_score ho he
    exact complexityOf_eq (hdenotes.le_iff denotes_zero) (hdenotes.le_iff denotes_three)
  · obtain ⟨hzero, hthree⟩ := not_or.mp hbound
    exact complexityOf_of_apart h.near_score hzero hthree

end

def exactScore (vocabulary : Vocabulary) (text : List Char) (intent : Intent)
    (entities : List Entity) : ℚ := (tallyOf vocabulary text intent entities).exact

/-- The complexity is the one of the exact score unless that is at a bound and the floats add up to
more, which they do not when the objects come in fives; then it is one level too high. -/
theorem complexityOf_complexityScore_iff (vocabulary : Vocabulary) (text : List Char)
    (intent : Intent) (entities : List Entity)
    (hsimple : vocabulary.simpleTriggers.length < 2 ^ 28)
    (htotal : (tallyOf vocabulary text intent entities).total < 2 ^ 64) :
    (complexityOf (complexityScore vocabulary text intent entities) =
        exactComplexity (exactScore vocabulary text intent entities) ↔
      (exactScore vocabulary text intent entities = 0 →
        complexityScore vocabulary text intent entities ≤ 0.0) ∧
      (exactScore vocabulary text intent entities = 3 →
        complexityScore vocabulary text intent entities ≤ 3.0)) ∧
    (5 ∣ intent.objects.length → complexityOf (complexityScore vocabulary text intent entities) =
      exactComplexity (exactScore vocabulary text intent entities)) ∧
    (exactComplexity (exactScore vocabulary text intent entities)).level ≤
      (complexityOf (complexityScore vocabulary text intent entities)).level ∧
    (complexityOf (complexityScore vocabulary text intent entities)).level ≤
      (exactComplexity (exactScore vocabulary text intent entities)).level + 1 := by
  have hcount : (tallyOf vocabulary text intent entities).simple < 2 ^ 28 :=
    List.countP_le_length.trans_lt hsimple
  rw [complexityScore_eq, exactScore]
  by_cases hmoderate : (tallyOf vocabulary text intent entities).Moderate
  · have hnear := hmoderate.near_score
    exact ⟨complexityOf_iff_of_near hnear, hmoderate.complexityOf_score_of_fives,
      level_bounds_of_near hnear⟩
  · obtain ⟨hscore, hexact, hgreat⟩ := Tally.complexity_of_great hcount htotal hmoderate
    rw [hscore, hexact]
    refine ⟨iff_of_true rfl ⟨?_, ?_⟩, fun _ => rfl, le_rfl, Nat.le_succ _⟩
    · exact fun hzero => absurd hgreat (by linarith)
    · exact fun hthree => absurd hgreat (by linarith)

/-- A greeting and a class balance each other, and the score is at the lower bound. -/
theorem greeting_rated_exactly :
    complexityOf (complexityScore .standard "hello class".toList (intent "hello class".toList)
      (entities "hello class".toList)) =
    exactComplexity (exactScore .standard "hello class".toList (intent "hello class".toList)
      (entities "hello class".toList)) :=
  (complexityOf_complexityScore_iff .standard "hello class".toList _ _ (by decide)
    (by decide +kernel)).2.1 (by decide +kernel)

theorem tallyOf_analyzeNormal (vocabulary : Vocabulary) (text : List Char) :
    tallyOf vocabulary text (analyzeNormal vocabulary text).intent
      (analyzeNormal vocabulary text).entities = tally vocabulary text := rfl

/-- The weights add up to nothing, but the floats to a little more. -/
theorem log_greeting_overrated : ∃ a, analyze .standard "hello log /a.txt" = .ok a ∧
    exactScore .standard "hello log /a.txt".toList a.intent a.entities = 0 ∧
    complexityOf (complexityScore .standard "hello log /a.txt".toList a.intent a.entities) =
      .medium ∧ a.complexity = .medium := by
  have hnormal : normalizeChars "hello log /a.txt".toList = "hello log /a.txt".toList := by decide
  have hcounts : tally .standard "hello log /a.txt".toList = ⟨1, 0, 0, 0, 1, 2, false, 1⟩ :=
    (Tally.mk.injEq ..).mpr (by decide +kernel)
  have hmedium : complexityOf (Tally.score ⟨1, 0, 0, 0, 1, 2, false, 1⟩) = .medium := by
    set_option maxRecDepth 4000 in decide
  refine ⟨analyzeNormal .standard "hello log /a.txt".toList, ?_, ?_, ?_, ?_⟩
  · rw [analyze, if_neg (by decide), hnormal]
  · rw [exactScore, tallyOf_analyzeNormal, hcounts]
    norm_num [Tally.exact]
  · rw [complexityScore_eq, tallyOf_analyzeNormal, hcounts, hmedium]
  · rw [complexity_eq, hcounts, hmedium]

end Scriptwright.Description
