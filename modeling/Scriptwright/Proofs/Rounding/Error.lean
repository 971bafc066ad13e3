import Scriptwright.Proofs.Rounding.Below

/-!
How far a computation on floats strays from the exact one. Rounding moves a number by at most half
of its last place, so sums of numbers of moderate size stay close to the exact sums, and comparing
them with a bound goes wrong only where the exact sum is as close to the bound.
-/
namespace Scriptwright.Rounding

variable {x y z w : ℚ} {a b c : Float} {k l m n : ℕ}

theorem abs_nearest_sub_le (x : ℚ) : |(nearest x : ℚ) - x| ≤ 1 / 2 := by
  have hsplit := Int.floor_add_fract x
  have hnonneg := Int.fract_nonneg x
  have hlt := Int.fract_lt_one x
  rw [abs_le]
  rcases lt_trichotomy (Int.fract x) (1 / 2) with hlow | htie | hhigh
  · rw [nearest_of_lt hlow]
    constructor <;> linarith
  · rw [nearest_of_eq htie]
    rcases Int.emod_two_eq_zero_or_one ⌊x⌋ with heven | hodd
    · rw [heven, add_zero]
      constructor <;> linarith
    · rw [hodd]
      push_cast
      constructor <;> linarith
  · rw [nearest_of_gt hhigh]
    push_cast
    constructor <;> linarith

theorem abs_rounded_sub_le_lastPlace (x : ℚ) : |rounded x - x| ≤ 2 ^ lastPlace |x| / 2 := by
  have hpos := two_zpow_pos (lastPlace |x|)
  have hsplit : rounded x - x =
      (nearest (x / 2 ^ lastPlace |x|) - x / 2 ^ lastPlace |x|) * 2 ^ lastPlace |x| := by
    rw [sub_mul, div_mul_cancel₀ x hpos.ne', rounded]
  have hnearest := abs_nearest_sub_le (x / 2 ^ lastPlace |x|)
  rw [hsplit, abs_mul, abs_of_pos hpos]
  linarith [mul_le_mul_of_nonneg_right hnearest hpos.le]

theorem lastPlace_le {k : ℤ} (hk : -1022 ≤ k) (hx : 0 < x) (h : x ≤ 2 ^ k) :
    lastPlace x ≤ k - 53 + 1 := by
  have hlog := Int.log_mono_right (b := 2) hx h
  have hpow : Int.log 2 ((2 : ℚ) ^ k) = k := by
    exact_mod_cast Int.log_zpow (R := ℚ) one_lt_two k
  unfold lastPlace
  omega

theorem abs_rounded_sub_le {k : ℤ} (hk : -1022 ≤ k) (h : |x| ≤ 2 ^ k) :
    |rounded x - x| ≤ 2 ^ (k - 53) := by
  by_cases hzero : x = 0
  · rw [hzero, rounded_zero, sub_zero, abs_zero]
    exact (two_zpow_pos _).le
  have hlast := lastPlace_le hk (abs_pos.mpr hzero) h
  have hhalf := zpow_le_zpow_right₀ (one_le_two (α := ℚ)) hlast
  rw [zpow_add_one₀ two_ne_zero] at hhalf
  linarith [abs_rounded_sub_le_lastPlace x]

theorem nearest_eq_of_close {n : ℤ} (h : |x - n| < 1 / 2) : nearest x = n := by
  have hnearest := abs_nearest_sub_le x
  have hapart : |(nearest x : ℚ) - n| < 1 := by
    linarith [abs_sub_le (nearest x : ℚ) x n]
  have hwhole : |nearest x - n| < 1 := by exact_mod_cast hapart
  exact sub_eq_zero.mp (Int.abs_lt_one_iff.mp hwhole)

theorem lt_two_zpow_lastPlace (x : ℚ) : x < 2 ^ (lastPlace x + 53) := by
  have hlt := Int.lt_zpow_succ_log_self one_lt_two x
  rw [Nat.cast_ofNat] at hlt
  refine hlt.trans_le (zpow_le_zpow_right₀ one_le_two ?_)
  unfold lastPlace
  omega

theorem rounded_eq_of_close {n e : ℤ} (hx : 0 < x) (hlast : lastPlace x ≤ e)
    (hclose : |x - n * 2 ^ e| < x * 2 ^ (-54 : ℤ)) : rounded x = n * 2 ^ e := by
  obtain ⟨k, hk⟩ := two_zpow_eq_mul hlast
  have hpos := two_zpow_pos (lastPlace x)
  have hwhole : (n : ℚ) * 2 ^ e = (n * k : ℤ) * 2 ^ lastPlace x := by
    rw [Int.cast_mul, mul_assoc, ← hk]
  have hhalf : x * 2 ^ (-54 : ℤ) < 2 ^ lastPlace x / 2 := by
    have hlt := mul_lt_mul_of_pos_right (lt_two_zpow_lastPlace x) (two_zpow_pos (-54))
    rwa [← zpow_add₀ two_ne_zero, add_assoc, show (53 : ℤ) + -54 = -1 from rfl,
      zpow_add₀ two_ne_zero, zpow_neg_one, ← div_eq_mul_inv] at hlt
  have hnearest : nearest (x / 2 ^ lastPlace x) = n * k := by
    apply nearest_eq_of_close
    rw [div_sub' hpos.ne', abs_div, abs_of_pos hpos, div_lt_iff₀ hpos, mul_comm (2 ^ lastPlace x),
      ← hwhole, one_div, inv_mul_eq_div]
    exact hclose.trans hhalf
  rw [rounded, abs_of_pos hx, hnearest, hwhole]

/-- The float denotes a number at most `n` units in the 16th binary place from `x`, and the magnitude
of `x` is at most `k` times two to the 32. -/
structure Near (n k : ℕ) (a : Float) (x : ℚ) : Prop where
  size : |x| ≤ k * 2 ^ 32
  close : ∃ y, Denotes a y ∧ |y - x| ≤ n * 2 ^ (-16 : ℤ)

theorem near_of_denotes (h : Denotes a x) (hsize : |x| ≤ k * 2 ^ 32) : Near 0 k a x := by
  refine ⟨hsize, x, h, ?_⟩
  rw [sub_self, abs_zero, Nat.cast_zero, zero_mul]

theorem Near.weaken (h : Near m k a x) (hmn : m ≤ n) (hkl : k ≤ l) : Near n l a x := by
  obtain ⟨hsize, y, ha, hy⟩ := h
  have hunits : (m : ℚ) ≤ n := by exact_mod_cast hmn
  have htimes : (k : ℚ) ≤ l := by exact_mod_cast hkl
  exact ⟨hsize.trans (mul_le_mul_of_nonneg_right htimes (by norm_num)), y, ha,
    hy.trans (mul_le_mul_of_nonneg_right hunits (two_zpow_pos _).le)⟩

theorem tame_of_size {y : ℚ} (h : |y| ≤ 2 ^ (37 : ℤ)) : Tame y :=
  tame_of_abs_le (k := 37) (by norm_num) h

theorem abs_rounded_sub_le_units {y : ℚ} (hy : |y - x| ≤ n * 2 ^ (-16 : ℤ))
    (hsize : |y| ≤ 2 ^ (37 : ℤ)) : |rounded y - x| ≤ (n + 1 : ℕ) * 2 ^ (-16 : ℤ) := by
  have hround := abs_rounded_sub_le (by norm_num) hsize
  rw [show (37 : ℤ) - 53 = -16 from rfl] at hround
  calc |rounded y - x|
      _ ≤ |rounded y - y| + |y - x| := abs_sub_le _ _ _
      _ ≤ 2 ^ (-16 : ℤ) + n * 2 ^ (-16 : ℤ) := add_le_add hround hy
      _ = (n + 1 : ℕ) * 2 ^ (-16 : ℤ) := by rw [Nat.cast_add_one, add_one_mul, add_comm]

theorem Near.add (ha : Near m k a x) (hb : Near n l b z) (hkl : k + l ≤ 16)
    (hmn : m + n ≤ 2 ^ 16) : Near (m + n + 1) (k + l) (a + b) (x + z) := by
  obtain ⟨hx, y, ha, hy⟩ := ha
  obtain ⟨hz, w, hb, hw⟩ := hb
  have hsize : |x + z| ≤ (k + l : ℕ) * 2 ^ 32 := by
    rw [Nat.cast_add, add_mul]
    exact (abs_add_le x z).trans (add_le_add hx hz)
  have hclose : |y + w - (x + z)| ≤ (m + n : ℕ) * 2 ^ (-16 : ℤ) := by
    rw [add_sub_add_comm, Nat.cast_add, add_mul]
    exact (abs_add_le _ _).trans (add_le_add hy hw)
  have hsum : |y + w| ≤ 2 ^ (37 : ℤ) := by
    have htimes : ((k + l : ℕ) : ℚ) ≤ 16 := by exact_mod_cast hkl
    have hunits : ((m + n : ℕ) : ℚ) ≤ 2 ^ 16 := by exact_mod_cast hmn
    have htriangle := abs_sub_abs_le_abs_sub (y + w) (x + z)
    norm_num at hsize hclose htimes hunits ⊢
    linarith
  exact ⟨hsize, _, ha.add hb (tame_of_size hsum), abs_rounded_sub_le_units hclose hsum⟩

theorem near_mul {y : ℚ} (ha : Denotes a x) (hb : Denotes b y) (hz : |z| ≤ k * 2 ^ 32)
    (hk : k ≤ 16) (hclose : |x * y - z| ≤ 2 ^ (-16 : ℤ)) : Near 2 k (a * b) z := by
  have htimes : (k : ℚ) ≤ 16 := by exact_mod_cast hk
  have hsize : |x * y| ≤ 2 ^ (37 : ℤ) := by
    have htriangle := abs_sub_abs_le_abs_sub (x * y) z
    have hbound : |x * y| ≤ 16 * 2 ^ 32 + 2 ^ (-16 : ℤ) := by linarith
    exact hbound.trans (by norm_num)
  refine ⟨hz, _, ha.mul hb (tame_of_size hsize), abs_rounded_sub_le_units ?_ hsize⟩
  rwa [Nat.cast_one, one_mul]

theorem Near.le (h : Near n k a x) (hc : Denotes c z) (hfar : x + n * 2 ^ (-16 : ℤ) ≤ z) :
    a ≤ c := by
  obtain ⟨-, y, ha, hy⟩ := h
  refine (ha.le_iff hc).mpr ?_
  linarith [(abs_le.mp hy).2]

theorem Near.not_le (h : Near n k a x) (hc : Denotes c z) (hfar : z + n * 2 ^ (-16 : ℤ) < x) :
    ¬ a ≤ c := by
  obtain ⟨-, y, ha, hy⟩ := h
  intro hle
  linarith [(abs_le.mp hy).1, (ha.le_iff hc).mp hle]

theorem rounded_natCast (h : n < 2 ^ 53) : rounded n = n := by
  have hround : rounded (((n : ℤ) : ℚ) * 2 ^ (0 : ℤ)) = ((n : ℤ) : ℚ) * 2 ^ (0 : ℤ) := by
    refine rounded_of_places ?_ (by norm_num)
    rw [abs_of_nonneg (Int.natCast_nonneg n)]
    exact_mod_cast h
  rwa [zpow_zero, mul_one, Int.cast_natCast] at hround

theorem denotes_count (h : n < 2 ^ 53) : Denotes n.toUInt64.toFloat n := by
  have hvalue : n.toUInt64.toNat = n := UInt64.toNat_ofNat_of_lt' (h.trans (by norm_num))
  have hdenotes := denotes_toFloat n.toUInt64
  rwa [hvalue, rounded_natCast h] at hdenotes

theorem abs_count_le (h : n ≤ 2 ^ 32) : |(n : ℚ)| ≤ 2 ^ 32 := by
  rw [abs_of_nonneg (Nat.cast_nonneg n)]
  exact_mod_cast h

theorem denotes_neg_count (h : n ≤ 2 ^ 32) : Denotes (-n.toUInt64.toFloat) (-n) := by
  refine (denotes_count (h.trans_lt (by norm_num))).neg ?_
  exact tame_of_abs_le (k := 32) (by norm_num) (by exact_mod_cast abs_count_le h)

def Halves (a : Float) (i : ℤ) : Prop := Denotes a (i * 2 ^ (-1 : ℤ))

theorem Halves.add {i j : ℤ} (ha : Halves a i) (hb : Halves b j) (hlt : |i + j| < 2 ^ 53) :
    Halves (a + b) (i + j) := by
  have hsum : (i : ℚ) * 2 ^ (-1 : ℤ) + j * 2 ^ (-1 : ℤ) = (i + j : ℤ) * 2 ^ (-1 : ℤ) := by
    rw [Int.cast_add, add_mul]
  have hplaces : |((i + j : ℤ) : ℚ)| ≤ 2 ^ (53 : ℤ) := by exact_mod_cast hlt.le
  have htame : Tame ((i : ℚ) * 2 ^ (-1 : ℤ) + j * 2 ^ (-1 : ℤ)) := by
    refine tame_of_abs_le (k := 53) (by norm_num) ?_
    rw [hsum, abs_mul]
    exact (mul_le_of_le_one_right (abs_nonneg _) (by norm_num [abs_le])).trans hplaces
  have hadd := Denotes.add ha hb htame
  rwa [hsum, rounded_of_places hlt (by norm_num)] at hadd

theorem halves_of_denotes {i : ℤ} (h : Denotes a x) (hx : x = i / 2) : Halves a i := by
  have hhalf : (i : ℚ) * 2 ^ (-1 : ℤ) = i / 2 := by rw [zpow_neg_one, div_eq_mul_inv]
  rwa [Halves, hhalf, ← hx]

/-- A count times a factor that is as close to `z` as a float can be becomes the exact product with
`z`, if that is a number of halves. -/
theorem halves_mul {i : ℤ} (hn : n ≤ 2 ^ 32) (hc : Denotes c w) (hw : 0 < w) (hle : w ≤ 1)
    (hclose : |w - z| < w * 2 ^ (-54 : ℤ)) (hwhole : n * z = i / 2) :
    Halves (n.toUInt64.toFloat * c) i := by
  rw [div_eq_mul_inv, ← zpow_neg_one] at hwhole
  have hcount : (n : ℚ) ≤ 2 ^ (32 : ℤ) := by exact_mod_cast hn
  have hproduct : n * w ≤ 2 ^ (32 : ℤ) :=
    (mul_le_of_le_one_right (Nat.cast_nonneg n) hle).trans hcount
  have hnonneg : 0 ≤ n * w := mul_nonneg (Nat.cast_nonneg n) hw.le
  have htame : Tame (n * w) := by
    refine tame_of_abs_le (k := 32) (by norm_num) ?_
    rwa [abs_of_nonneg hnonneg]
  have hround : rounded (n * w) = i * 2 ^ (-1 : ℤ) := by
    rcases n.eq_zero_or_pos with rfl | hpos
    · rw [← hwhole, Nat.cast_zero, zero_mul, zero_mul, rounded_zero]
    · have hn' : (0 : ℚ) < n := Nat.cast_pos.mpr hpos
      have hlast := lastPlace_le (by norm_num) (mul_pos hn' hw) hproduct
      refine rounded_eq_of_close (mul_pos hn' hw) (hlast.trans (by norm_num)) ?_
      rw [← hwhole, ← mul_sub, abs_mul, abs_of_pos hn', mul_assoc]
      exact mul_lt_mul_of_pos_left hclose hn'
  rw [Halves, ← hround]
  exact (denotes_count (hn.trans_lt (by norm_num))).mul hc htame

end Scriptwright.Rounding
