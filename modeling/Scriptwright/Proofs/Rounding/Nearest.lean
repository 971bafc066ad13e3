import Mathlib.Data.Int.Log
import Mathlib.Data.Rat.Floor
import Mathlib.Tactic.Linarith
import Mathlib.Tactic.Positivity
import Mathlib.Tactic.Ring

/-!
Rounding to binary floating point, on exact numbers. A number keeps 53 binary places, fewer near
zero, and goes to the nearest of the numbers it could become, to the even one of two. Rounding keeps
the order of numbers, and numbers that have few enough places stay what they are.
-/
namespace Scriptwright.Rounding

/-- The whole number nearest to `x`, the even one of two. -/
def nearest (x : ℚ) : ℤ :=
  if Int.fract x < 1 / 2 then ⌊x⌋
  else if 1 / 2 < Int.fract x then ⌊x⌋ + 1
  else ⌊x⌋ + ⌊x⌋ % 2

section
variable {x y : ℚ}

theorem nearest_of_lt (h : Int.fract x < 1 / 2) : nearest x = ⌊x⌋ := if_pos h

theorem nearest_of_gt (h : 1 / 2 < Int.fract x) : nearest x = ⌊x⌋ + 1 := by
  unfold nearest
  rw [if_neg h.not_gt, if_pos h]

theorem nearest_of_eq (h : Int.fract x = 1 / 2) : nearest x = ⌊x⌋ + ⌊x⌋ % 2 := by
  unfold nearest
  rw [if_neg h.not_lt, if_neg h.not_gt]

theorem floor_le_nearest (x : ℚ) : ⌊x⌋ ≤ nearest x := by
  unfold nearest
  split_ifs <;> omega

theorem nearest_le_floor_add_one (x : ℚ) : nearest x ≤ ⌊x⌋ + 1 := by
  unfold nearest
  split_ifs <;> omega

theorem nearest_mono (h : x ≤ y) : nearest x ≤ nearest y := by
  have hfloor : ⌊x⌋ ≤ ⌊y⌋ := Int.floor_mono h
  have hx := nearest_le_floor_add_one x
  have hy := floor_le_nearest y
  rcases hfloor.lt_or_eq with hlt | heq
  · omega
  · have hfract : Int.fract x ≤ Int.fract y := by
      unfold Int.fract
      rw [heq]
      linarith
    rcases lt_trichotomy (Int.fract y) (1 / 2) with hlow | htie | hhigh
    · rw [nearest_of_lt (hfract.trans_lt hlow), nearest_of_lt hlow]
      exact hfloor
    · rcases (hfract.trans htie.le).lt_or_eq with hlow' | htie'
      · rw [nearest_of_lt hlow']
        omega
      · rw [nearest_of_eq htie', nearest_of_eq htie, heq]
    · rw [nearest_of_gt hhigh]
      omega

theorem nearest_intCast (n : ℤ) : nearest n = n := by
  have hfract : Int.fract (n : ℚ) < 1 / 2 := by
    rw [Int.fract_intCast]
    norm_num
  rw [nearest_of_lt hfract, Int.floor_intCast]

theorem nearest_neg (x : ℚ) : nearest (-x) = -nearest x := by
  by_cases hwhole : Int.fract x = 0
  · have hx : x = (⌊x⌋ : ℚ) := by
      have hsum := Int.floor_add_fract x
      rw [hwhole, add_zero] at hsum
      exact hsum.symm
    rw [hx, ← Int.cast_neg, nearest_intCast, nearest_intCast]
  · have hfract : Int.fract (-x) = 1 - Int.fract x := Int.fract_neg hwhole
    have hfloor : ⌊-x⌋ = -⌊x⌋ - 1 := by
      have hx := Int.floor_add_fract x
      have hneg := Int.floor_add_fract (-x)
      have hcast : (⌊-x⌋ : ℚ) = ((-⌊x⌋ - 1 : ℤ) : ℚ) := by
        push_cast
        linarith
      exact_mod_cast hcast
    rcases lt_trichotomy (Int.fract x) (1 / 2) with hlow | htie | hhigh
    · rw [nearest_of_lt hlow, nearest_of_gt (by linarith), hfloor]
      omega
    · rw [nearest_of_eq htie, nearest_of_eq (by linarith), hfloor]
      omega
    · rw [nearest_of_gt hhigh, nearest_of_lt (by linarith), hfloor]
      omega

theorem le_nearest {n : ℤ} (h : (n : ℚ) ≤ x) : n ≤ nearest x :=
  (nearest_intCast n).symm.le.trans (nearest_mono h)

theorem nearest_le {n : ℤ} (h : x ≤ n) : nearest x ≤ n :=
  (nearest_mono h).trans (nearest_intCast n).le

end

def lastPlace (x : ℚ) : ℤ := max (Int.log 2 x - 52) (-1074)

/-- The number of 53 binary places that `x` becomes. -/
def rounded (x : ℚ) : ℚ := nearest (x / 2 ^ lastPlace |x|) * 2 ^ lastPlace |x|

section
variable {x y : ℚ}

theorem two_zpow_pos (e : ℤ) : (0 : ℚ) < 2 ^ e := zpow_pos two_pos e

theorem rounded_le {n : ℤ} (h : x ≤ n * 2 ^ lastPlace |x|) :
    rounded x ≤ n * 2 ^ lastPlace |x| := by
  have hquotient : x / 2 ^ lastPlace |x| ≤ n := (div_le_iff₀ (two_zpow_pos _)).mpr h
  have hnearest : (nearest (x / 2 ^ lastPlace |x|) : ℚ) ≤ n := by
    exact_mod_cast nearest_le hquotient
  exact mul_le_mul_of_nonneg_right hnearest (two_zpow_pos _).le

theorem le_rounded {n : ℤ} (h : n * 2 ^ lastPlace |x| ≤ x) :
    n * 2 ^ lastPlace |x| ≤ rounded x := by
  have hquotient : (n : ℚ) ≤ x / 2 ^ lastPlace |x| := (le_div_iff₀ (two_zpow_pos _)).mpr h
  have hnearest : (n : ℚ) ≤ nearest (x / 2 ^ lastPlace |x|) := by
    exact_mod_cast le_nearest hquotient
  exact mul_le_mul_of_nonneg_right hnearest (two_zpow_pos _).le

theorem rounded_neg (x : ℚ) : rounded (-x) = -rounded x := by
  unfold rounded
  rw [abs_neg, neg_div, nearest_neg]
  push_cast
  ring

theorem rounded_zero : rounded 0 = 0 := by
  have hzero : nearest 0 = 0 := nearest_intCast 0
  simp [rounded, hzero]

theorem rounded_nonneg (h : 0 ≤ x) : 0 ≤ rounded x := by
  have hzero : ((0 : ℤ) : ℚ) * 2 ^ lastPlace |x| = 0 := by simp
  have hle := le_rounded (hzero.le.trans h)
  rwa [hzero] at hle

theorem two_zpow_eq_mul {e k : ℤ} (h : e ≤ k) : ∃ n : ℤ, (2 : ℚ) ^ k = n * 2 ^ e := by
  obtain ⟨d, hd⟩ := Int.le.dest h
  refine ⟨2 ^ d, ?_⟩
  push_cast
  rw [← zpow_natCast, ← zpow_add₀ two_ne_zero, add_comm, hd]

theorem rounded_of_places {n e : ℤ} (hn : |n| < 2 ^ 53) (he : -1074 ≤ e) :
    rounded (n * 2 ^ e) = n * 2 ^ e := by
  by_cases hzero : n = 0
  · rw [hzero, Int.cast_zero, zero_mul, rounded_zero]
  · have hlast : lastPlace |(n : ℚ) * 2 ^ e| ≤ e := by
      have hpos : 0 < |(n : ℚ) * 2 ^ e| := abs_pos.mpr
        (mul_ne_zero (Int.cast_ne_zero.mpr hzero) (two_zpow_pos e).ne')
      have hlt : |(n : ℚ) * 2 ^ e| < ((2 : ℕ) : ℚ) ^ (53 + e) := by
        have hn' : |(n : ℚ)| < 2 ^ 53 := by exact_mod_cast hn
        rw [abs_mul, abs_of_pos (two_zpow_pos e), Nat.cast_ofNat, zpow_add₀ two_ne_zero]
        exact mul_lt_mul_of_pos_right hn' (two_zpow_pos e)
      have hlog := (Int.lt_zpow_iff_log_lt (by norm_num) hpos).mp hlt
      unfold lastPlace
      omega
    obtain ⟨k, hk⟩ := two_zpow_eq_mul hlast
    have hwhole : (n : ℚ) * 2 ^ e = (n * k : ℤ) * 2 ^ lastPlace |(n : ℚ) * 2 ^ e| := by
      rw [Int.cast_mul, mul_assoc, ← hk]
    exact le_antisymm ((rounded_le hwhole.le).trans hwhole.ge)
      (hwhole.le.trans (le_rounded hwhole.ge))

theorem rounded_two_zpow {e : ℤ} (he : -1074 ≤ e) : rounded (2 ^ e) = 2 ^ e := by
  have hone := rounded_of_places (by norm_num : |(1 : ℤ)| < 2 ^ 53) he
  rwa [Int.cast_one, one_mul] at hone

theorem lastPlace_mono (hx : 0 < x) (h : x ≤ y) : lastPlace x ≤ lastPlace y := by
  have hlog : Int.log 2 x ≤ Int.log 2 y := Int.log_mono_right hx h
  unfold lastPlace
  omega

theorem rounded_le_of_lastPlace_lt (hx : 0 < x) (hy : 0 < y) (h : lastPlace x < lastPlace y) :
    rounded x ≤ rounded y := by
  have hplaces : lastPlace y = Int.log 2 y - 52 ∧ Int.log 2 x + 1 ≤ Int.log 2 y := by
    unfold lastPlace at h ⊢
    omega
  have hbelow : x ≤ 2 ^ Int.log 2 y := by
    have hlt := Int.lt_zpow_succ_log_self (by norm_num : 1 < 2) x
    rw [Nat.cast_ofNat] at hlt
    exact hlt.le.trans (zpow_le_zpow_right₀ one_le_two hplaces.2)
  have habove : 2 ^ Int.log 2 y ≤ y := by
    have hle := Int.zpow_log_le_self (by norm_num : 1 < 2) hy
    rwa [Nat.cast_ofNat] at hle
  have hxlast : lastPlace |x| ≤ Int.log 2 y := by
    rw [abs_of_pos hx]
    omega
  have hylast : lastPlace |y| ≤ Int.log 2 y := by
    rw [abs_of_pos hy]
    omega
  obtain ⟨m, hm⟩ := two_zpow_eq_mul hxlast
  obtain ⟨n, hn⟩ := two_zpow_eq_mul hylast
  calc rounded x ≤ m * 2 ^ lastPlace |x| := rounded_le (hm ▸ hbelow)
    _ = n * 2 ^ lastPlace |y| := hm.symm.trans hn
    _ ≤ rounded y := le_rounded (hn ▸ habove)

theorem rounded_mono_of_nonneg (hx : 0 ≤ x) (h : x ≤ y) : rounded x ≤ rounded y := by
  rcases hx.eq_or_lt with rfl | hx
  · rw [rounded_zero]
    exact rounded_nonneg h
  · have hy : 0 < y := hx.trans_le h
    rcases (lastPlace_mono hx h).lt_or_eq with hlt | heq
    · exact rounded_le_of_lastPlace_lt hx hy hlt
    · unfold rounded
      rw [abs_of_pos hx, abs_of_pos hy, heq]
      have hquotient : x / 2 ^ lastPlace y ≤ y / 2 ^ lastPlace y :=
        div_le_div_of_nonneg_right h (two_zpow_pos _).le
      have hnearest : (nearest (x / 2 ^ lastPlace y) : ℚ) ≤ nearest (y / 2 ^ lastPlace y) := by
        exact_mod_cast nearest_mono hquotient
      exact mul_le_mul_of_nonneg_right hnearest (two_zpow_pos _).le

theorem rounded_mono : Monotone rounded := by
  intro x y h
  rcases le_total 0 x with hx | hx
  · exact rounded_mono_of_nonneg hx h
  · rcases le_total 0 y with hy | hy
    · have hneg := rounded_nonneg (neg_nonneg.mpr hx)
      rw [rounded_neg] at hneg
      exact (neg_nonneg.mp hneg).trans (rounded_nonneg hy)
    · have hneg := rounded_mono_of_nonneg (neg_nonneg.mpr hy) (neg_le_neg h)
      rw [rounded_neg, rounded_neg] at hneg
      exact neg_le_neg_iff.mp hneg

theorem abs_rounded_le {e : ℤ} (he : -1074 ≤ e) (h : |x| ≤ 2 ^ e) : |rounded x| ≤ 2 ^ e := by
  obtain ⟨hlow, hhigh⟩ := abs_le.mp h
  have hbelow := rounded_mono hlow
  rw [rounded_neg, rounded_two_zpow he] at hbelow
  have habove := rounded_mono hhigh
  rw [rounded_two_zpow he] at habove
  exact abs_le.mpr ⟨hbelow, habove⟩

end

end Scriptwright.Rounding
