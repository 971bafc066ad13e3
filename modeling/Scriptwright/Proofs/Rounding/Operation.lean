import Scriptwright.Proofs.Rounding.Mantissa

/-!
Operations on floats in canonical form. A sum or a product is the exact one rounded, and comparing
forms compares values.
-/
namespace Scriptwright.Rounding

open Float.Model UnpackedFloat

theorem signed_mul (s : Sign) (x y : ℚ) : signed s x * y = signed s (x * y) := by
  cases s
  · exact neg_mul x y
  · rfl

theorem signed_mul_signed (s t : Sign) (x y : ℚ) :
    signed s x * signed t y = signed (s * t) (x * y) := by
  cases s <;> cases t
  · exact neg_mul_neg x y
  · exact neg_mul x y
  · exact mul_neg x y
  · rfl

theorem signed_neg (s : Sign) (x : ℚ) : signed (-s) x = -signed s x := by
  cases s
  · exact (neg_neg x).symm
  · rfl

theorem apply_cast (s : Sign) (n : ℕ) : ((s.apply n : ℤ) : ℚ) = signed s n := by
  cases s
  · simp [Sign.apply, signed]
  · simp [Sign.apply, signed]

theorem exists_aligned (m : ℕ) {e t : ℤ} (h : t ≤ e) :
    ∃ n : ℕ, decreaseExponent m e t = (n, t) ∧ (n : ℚ) * 2 ^ t = m * 2 ^ e := by
  obtain ⟨k, hk, hplace⟩ := decreaseExponent_spec m e t
  have hvalue := mantissa_mul_two_pow m k e
  rw [hplace, min_eq_right h] at hvalue
  rw [hplace, min_eq_right h] at hk
  exact ⟨_, hk, hvalue⟩

variable {f g : UnpackedFloat} {x y : ℚ}

theorem Canonical.rounded (h : Canonical f x) : rounded x = x := by
  cases h with
  | zero s => exact rounded_zero
  | @finite s m e hpos hlt hleast hfull =>
    have habs : |(m : ℤ)| < 2 ^ 53 := by
      rw [abs_of_nonneg (by omega)]
      exact_mod_cast hlt
    have hplaces := rounded_of_places habs hleast
    rw [Int.cast_natCast] at hplaces
    rw [rounded_signed, hplaces]

theorem Canonical.neg (h : Canonical f x) : Canonical f.neg (-x) := by
  cases h with
  | zero s =>
    rw [neg_zero]
    exact .zero (-s)
  | finite s hpos hlt hleast hfull =>
    rw [← signed_neg]
    exact .finite (-s) hpos hlt hleast hfull

theorem Canonical.add (hf : Canonical f x) (hg : Canonical g y) :
    Canonical (UnpackedFloat.add Format.binary64 f g) (Rounding.rounded (x + y)) := by
  cases hf with
  | zero s =>
    rw [zero_add, hg.rounded]
    cases hg with
    | zero t => cases s <;> cases t <;> exact .zero _
    | finite t hpos hlt hleast hfull => exact .finite t hpos hlt hleast hfull
  | @finite s m e hpos hlt hleast hfull =>
    have hf : Canonical (.finite s m e hpos) (signed s (m * 2 ^ e)) :=
      .finite s hpos hlt hleast hfull
    cases hg with
    | zero t =>
      rw [add_zero, hf.rounded]
      exact hf
    | @finite t n d hpos' hlt' hleast' hfull' =>
      obtain ⟨m', hm', hleft⟩ := exists_aligned m (min_le_left e d)
      obtain ⟨n', hn', hright⟩ := exists_aligned n (min_le_right e d)
      have hsum : signed s (m * 2 ^ e) + signed t (n * 2 ^ d) =
          ((s.apply m' + t.apply n' : ℤ) : ℚ) * 2 ^ min e d := by
        rw [Int.cast_add, apply_cast, apply_cast, add_mul, signed_mul, signed_mul, hleft, hright]
      have hadd : UnpackedFloat.add Format.binary64 (.finite s m e hpos) (.finite t n d hpos') =
          UnpackedFloat.normalize Format.binary64
            (s.apply (decreaseExponent m e (min e d)).1 +
              t.apply (decreaseExponent n d (min e d)).1)
            (min e d) .positive := rfl
      rw [hsum, hadd, hm', hn']
      exact canonical_normalize _ _ _

theorem le_lastPlace_product {m n : ℕ} (hm : 0 < m) (hn : 0 < n) {d e : ℤ}
    (hfull : 2 ^ 52 ≤ m ∨ d = -1074) (hfull' : 2 ^ 52 ≤ n ∨ e = -1074) :
    d + e ≤ lastPlace ((m * n : ℕ) * 2 ^ (d + e)) := by
  have hpos : 0 < m * n := Nat.mul_pos hm hn
  have hlog : 2 ^ 52 ≤ m * n → 52 ≤ (m * n).log2 := (Nat.le_log2 hpos.ne').mpr
  rw [← lastPlace_mantissa hpos, targetExponent_eq]
  rcases hfull with hfull | rfl
  · have := hlog (hfull.trans (Nat.le_mul_of_pos_right m hn))
    omega
  · rcases hfull' with hfull' | rfl
    · have := hlog (hfull'.trans (Nat.le_mul_of_pos_left n hm))
      omega
    · omega

theorem Canonical.mul (hf : Canonical f x) (hg : Canonical g y) :
    Canonical (UnpackedFloat.mul Format.binary64 f g) (Rounding.rounded (x * y)) := by
  cases hf with
  | zero s =>
    rw [zero_mul, rounded_zero]
    cases hg <;> exact .zero _
  | @finite s m d hpos hlt hleast hfull =>
    cases hg with
    | zero t =>
      rw [mul_zero, rounded_zero]
      exact .zero _
    | @finite t n e hpos' hlt' hleast' hfull' =>
      have hproduct : (m : ℚ) * 2 ^ d * (n * 2 ^ e) = (m * n : ℕ) * 2 ^ (d + e) := by
        rw [Nat.cast_mul, zpow_add₀ two_ne_zero]
        ring
      rw [signed_mul_signed, hproduct, rounded_signed]
      exact canonical_roundWithAccuracy (s * t) (Nat.mul_pos hpos hpos')
        (le_lastPlace_product hpos hpos' hfull hfull')

theorem magnitude_lt_of_exponent_lt {m n : ℕ} {d e : ℤ} (hm : m < 2 ^ 53) (hd : -1074 ≤ d)
    (hfull : 2 ^ 52 ≤ n ∨ e = -1074) (h : d < e) : (m : ℚ) * 2 ^ d < n * 2 ^ e := by
  have hn : (2 : ℚ) ^ 52 ≤ n := by exact_mod_cast hfull.resolve_right (by omega)
  have hm' : (m : ℚ) < 2 ^ 53 := by exact_mod_cast hm
  calc (m : ℚ) * 2 ^ d < 2 ^ 53 * 2 ^ d := mul_lt_mul_of_pos_right hm' (two_zpow_pos d)
    _ = 2 ^ 52 * 2 ^ (d + 1) := by rw [zpow_add_one₀ two_ne_zero]; ring
    _ ≤ 2 ^ 52 * 2 ^ e :=
      mul_le_mul_of_nonneg_left (zpow_le_zpow_right₀ one_le_two (by omega)) (by positivity)
    _ ≤ n * 2 ^ e := mul_le_mul_of_nonneg_right hn (two_zpow_pos e).le

theorem compare_magnitudes {m n : ℕ} {d e : ℤ} (hm : m < 2 ^ 53) (hn : n < 2 ^ 53)
    (hd : -1074 ≤ d) (he : -1074 ≤ e) (hfull : 2 ^ 52 ≤ m ∨ d = -1074)
    (hfull' : 2 ^ 52 ≤ n ∨ e = -1074) :
    (compare d e).then (compare m n) = compare ((m : ℚ) * 2 ^ d) (n * 2 ^ e) := by
  rcases lt_trichotomy d e with hlt | rfl | hgt
  · rw [compare_lt_iff_lt.mpr hlt,
      compare_lt_iff_lt.mpr (magnitude_lt_of_exponent_lt hm hd hfull' hlt)]
    rfl
  · rw [compare_eq_iff_eq.mpr rfl]
    rcases lt_trichotomy m n with hlt | rfl | hgt
    · have hlt' : (m : ℚ) < n := by exact_mod_cast hlt
      rw [compare_lt_iff_lt.mpr hlt,
        compare_lt_iff_lt.mpr (mul_lt_mul_of_pos_right hlt' (two_zpow_pos d))]
      rfl
    · rw [compare_eq_iff_eq.mpr rfl, compare_eq_iff_eq.mpr rfl]
      rfl
    · have hgt' : (n : ℚ) < m := by exact_mod_cast hgt
      rw [compare_gt_iff_gt.mpr hgt,
        compare_gt_iff_gt.mpr (mul_lt_mul_of_pos_right hgt' (two_zpow_pos d))]
      rfl
  · rw [compare_gt_iff_gt.mpr hgt,
      compare_gt_iff_gt.mpr (magnitude_lt_of_exponent_lt hn he hfull hgt)]
    rfl

theorem compare_neg_neg (x y : ℚ) : compare (-x) (-y) = (compare x y).swap := by
  rcases lt_trichotomy x y with hlt | rfl | hgt
  · rw [compare_lt_iff_lt.mpr hlt, compare_gt_iff_gt.mpr (neg_lt_neg hlt)]
    rfl
  · rw [compare_eq_iff_eq.mpr rfl, compare_eq_iff_eq.mpr rfl]
    rfl
  · rw [compare_gt_iff_gt.mpr hgt, compare_lt_iff_lt.mpr (neg_lt_neg hgt)]
    rfl

theorem Canonical.compare (hf : Canonical f x) (hg : Canonical g y) :
    UnpackedFloat.compare f g = some (compare x y) := by
  cases hf with
  | zero s =>
    cases hg with
    | zero t => rw [compare_eq_iff_eq.mpr rfl]; rfl
    | @finite t n e hpos hlt hleast hfull =>
      have hn : 0 < (n : ℚ) * 2 ^ e := mul_pos (Nat.cast_pos.mpr hpos) (two_zpow_pos e)
      cases t with
      | positive => rw [signed, compare_lt_iff_lt.mpr hn]; rfl
      | negative => rw [signed, compare_gt_iff_gt.mpr (neg_lt_zero.mpr hn)]; rfl
  | @finite s m d hpos hlt hleast hfull =>
    have hm : 0 < (m : ℚ) * 2 ^ d := mul_pos (Nat.cast_pos.mpr hpos) (two_zpow_pos d)
    cases hg with
    | zero t =>
      cases s with
      | positive => rw [signed, compare_gt_iff_gt.mpr hm]; rfl
      | negative => rw [signed, compare_lt_iff_lt.mpr (neg_lt_zero.mpr hm)]; rfl
    | @finite t n e hpos' hlt' hleast' hfull' =>
      have hn : 0 < (n : ℚ) * 2 ^ e := mul_pos (Nat.cast_pos.mpr hpos') (two_zpow_pos e)
      have hmagnitudes := compare_magnitudes hlt hlt' hleast hleast' hfull hfull'
      cases s <;> cases t <;> rw [signed, signed]
      · rw [compare_neg_neg, ← hmagnitudes]
        rfl
      · rw [compare_lt_iff_lt.mpr (by linarith)]
        rfl
      · rw [compare_gt_iff_gt.mpr (by linarith)]
        rfl
      · rw [← hmagnitudes]
        rfl

theorem Canonical.le_iff (hf : Canonical f x) (hg : Canonical g y) :
    UnpackedFloat.le f g = true ↔ x ≤ y := by
  rw [UnpackedFloat.le, hf.compare hg, Option.any_some, ← Ordering.ne_gt_iff_isLE]
  exact compare_le_iff_le

end Scriptwright.Rounding
