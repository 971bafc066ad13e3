import Mathlib.Tactic.FieldSimp
import Scriptwright.Proofs.Rounding.Nearest

/-!
How floats are rounded: a mantissa is shifted to the right until 53 places are left, two bits keep
what is lost, and they decide between the mantissa and its successor. The result is the number of 53
places that the exact number becomes, in its one canonical form.
-/
namespace Scriptwright.Rounding

open Float.Model UnpackedFloat

/-- The first bit behind a mantissa stands for a half, and the second one for whatever is left. -/
def Represents (em : ExtendedMantissa) (x : ℚ) : Prop :=
  ∃ rest : ℚ, 0 ≤ rest ∧ rest < 1 ∧ (em.stickyBit = true ↔ 0 < rest) ∧
    x = em.mantissa + (em.roundBit.toNat + rest) / 2

theorem represents_exact (m : ℕ) : Represents ⟨m, false, false⟩ m :=
  ⟨0, le_rfl, one_pos, by simp, by simp⟩

theorem Represents.roundedMantissa {em : ExtendedMantissa} {x : ℚ} (h : Represents em x) :
    (em.roundedMantissa : ℤ) = nearest x := by
  obtain ⟨m, r, s⟩ := em
  obtain ⟨rest, hrest, hlt, hsticky, hx⟩ := h
  simp only at hsticky hx
  have hbit : (r.toNat : ℚ) ≤ 1 := by exact_mod_cast r.toNat_le
  have hbit' : (0 : ℚ) ≤ r.toNat := Nat.cast_nonneg _
  have hfloor : ⌊x⌋ = (m : ℤ) := by
    apply Int.floor_eq_iff.mpr
    push_cast
    constructor <;> linarith
  have hfract : Int.fract x = (r.toNat + rest) / 2 := by
    rw [Int.fract, hfloor, Int.cast_natCast, hx, add_sub_cancel_left]
  cases r with
  | false =>
    have hlow : Int.fract x < 1 / 2 := by
      rw [hfract]
      simp only [Bool.toNat_false, Nat.cast_zero]
      linarith
    rw [nearest_of_lt hlow, hfloor]
    cases s <;> rfl
  | true =>
    simp only [Bool.toNat_true, Nat.cast_one] at hfract
    cases s with
    | false =>
      have hzero : rest = 0 := hrest.antisymm' (not_lt.mp fun hpos => by simp [hpos] at hsticky)
      rw [nearest_of_eq (by rw [hfract, hzero, add_zero]), hfloor]
      rfl
    | true =>
      have hpos : 0 < rest := hsticky.mp rfl
      rw [nearest_of_gt (by linarith), hfloor]
      rfl

theorem Represents.shiftRightOne {em : ExtendedMantissa} {x : ℚ} (h : Represents em x) :
    Represents em.shiftRightOne (x / 2) := by
  obtain ⟨m, r, s⟩ := em
  obtain ⟨rest, hrest, hlt, hsticky, hx⟩ := h
  have hbit : (r.toNat : ℚ) ≤ 1 := by exact_mod_cast r.toNat_le
  have hbit' : (0 : ℚ) ≤ r.toNat := Nat.cast_nonneg _
  refine ⟨(r.toNat + rest) / 2, by linarith, by linarith, ?_, ?_⟩
  · cases r with
    | false => simpa [ExtendedMantissa.shiftRightOne] using hsticky
    | true =>
      simp only [ExtendedMantissa.shiftRightOne, Bool.true_or, true_iff, Bool.toNat_true]
      linarith
  · have hm : (m : ℚ) = 2 * (m / 2 : ℕ) + (m % 2 : ℕ) := by
      exact_mod_cast (Nat.div_add_mod m 2).symm
    have hlast : (m % 2 != 0).toNat = m % 2 := by
      rcases Nat.mod_two_eq_zero_or_one m with h | h <;> rw [h] <;> rfl
    simp only [ExtendedMantissa.shiftRightOne, hlast, hx]
    rw [hm]
    ring

theorem Represents.shiftRight {em : ExtendedMantissa} {x : ℚ} (h : Represents em x) (n : ℕ) :
    Represents (em >>> n) (x / 2 ^ n) := by
  induction n with
  | zero =>
    rw [pow_zero, div_one]
    exact h
  | succ n ih =>
    have hstep := ih.shiftRightOne
    rw [div_div, ← pow_succ] at hstep
    exact hstep

def signed (s : Sign) (x : ℚ) : ℚ :=
  match s with
  | .negative => -x
  | .positive => x

theorem rounded_signed (s : Sign) (x : ℚ) : rounded (signed s x) = signed s (rounded x) := by
  cases s
  · exact rounded_neg x
  · rfl

theorem signed_zero (s : Sign) : signed s 0 = 0 := by
  cases s
  · exact neg_zero
  · rfl

/-- The float has the value `x` and the form that all floats of that value and sign have. -/
inductive Canonical : UnpackedFloat → ℚ → Prop
  | zero (s : Sign) : Canonical (.zero s) 0
  | finite (s : Sign) {m : ℕ} {e : ℤ} (hpos : 0 < m) (hlt : m < 2 ^ 53) (hleast : -1074 ≤ e)
      (hfull : 2 ^ 52 ≤ m ∨ e = -1074) : Canonical (.finite s m e hpos) (signed s (m * 2 ^ e))

theorem targetExponent_eq (m : ℕ) (e : ℤ) :
    Format.binary64.targetExponent (totalExponent m e) = max (m.log2 + e - 52) (-1074) := by
  have hbits : (Format.binary64.mantissaBits : ℤ) = 53 := rfl
  have hleast : Format.binary64.minExponent = -1074 := rfl
  rw [Format.targetExponent, totalExponent, hbits, hleast]
  congr 1
  omega

theorem log_mantissa {m : ℕ} (hm : 0 < m) (e : ℤ) : Int.log 2 ((m : ℚ) * 2 ^ e) = m.log2 + e := by
  have hpos : 0 < (m : ℚ) * 2 ^ e := mul_pos (Nat.cast_pos.mpr hm) (two_zpow_pos e)
  apply le_antisymm
  · have hlt : (m : ℚ) * 2 ^ e < ((2 : ℕ) : ℚ) ^ ((m.log2 : ℤ) + 1 + e) := by
      have hlog : (m : ℚ) < 2 ^ (m.log2 + 1) := by exact_mod_cast m.lt_log2_self
      rw [Nat.cast_ofNat, zpow_add₀ two_ne_zero]
      exact mul_lt_mul_of_pos_right (by exact_mod_cast hlog) (two_zpow_pos e)
    have hbound := (Int.lt_zpow_iff_log_lt (by norm_num) hpos).mp hlt
    omega
  · have hle : ((2 : ℕ) : ℚ) ^ ((m.log2 : ℤ) + e) ≤ (m : ℚ) * 2 ^ e := by
      have hlog : (2 : ℚ) ^ m.log2 ≤ m := by exact_mod_cast Nat.log2_self_le hm.ne'
      rw [Nat.cast_ofNat, zpow_add₀ two_ne_zero]
      exact mul_le_mul_of_nonneg_right (by exact_mod_cast hlog) (two_zpow_pos e).le
    exact (Int.zpow_le_iff_le_log (by norm_num) hpos).mp hle

theorem lastPlace_mantissa {m : ℕ} (hm : 0 < m) (e : ℤ) :
    Format.binary64.targetExponent (totalExponent m e) = lastPlace (m * 2 ^ e) := by
  rw [targetExponent_eq, lastPlace, log_mantissa hm]

theorem shiftToExponent_spec (m : ℕ) {e t : ℤ} (h : e ≤ t) :
    Represents (shiftToExponent m e .exact t).1 (m * 2 ^ e / 2 ^ t) ∧
      (shiftToExponent m e .exact t).2 = t := by
  obtain ⟨k, hk⟩ := Int.le.dest h
  have hamount : (t - e).toNat = k := by omega
  refine ⟨?_, ?_⟩
  · have hshift := (represents_exact m).shiftRight k
    have hvalue : (m : ℚ) * 2 ^ e / 2 ^ t = m / 2 ^ k := by
      rw [← hk, zpow_add₀ two_ne_zero, zpow_natCast]
      field_simp
    rw [hvalue]
    unfold shiftToExponent
    rw [hamount]
    exact hshift
  · simp only [shiftToExponent, hamount]
    exact hk

def ofMantissa (s : Sign) (m : ℕ) (e : ℤ) : UnpackedFloat :=
  if h : m = 0 then .zero s else .finite s m e (Nat.pos_of_ne_zero h)

theorem canonical_ofMantissa (s : Sign) {m : ℕ} {e : ℤ} (hlt : m < 2 ^ 53) (hleast : -1074 ≤ e)
    (hfull : 2 ^ 52 ≤ m ∨ e = -1074) : Canonical (ofMantissa s m e) (signed s (m * 2 ^ e)) := by
  by_cases hzero : m = 0
  · rw [ofMantissa, dif_pos hzero, hzero, Nat.cast_zero, zero_mul, signed_zero]
    exact .zero s
  · rw [ofMantissa, dif_neg hzero]
    exact .finite s _ hlt hleast hfull

/-- What becomes of a mantissa that is rounded already but may be one place too long. -/
def settled (s : Sign) (m : ℕ) (e : ℤ) : UnpackedFloat :=
  let shifted := shiftToTargetExponent Format.binary64 m e .exact
  ofMantissa s shifted.1.mantissa shifted.2

theorem canonical_settled (s : Sign) {m : ℕ} {e : ℤ} (hm : m ≤ 2 ^ 53) (hleast : -1074 ≤ e)
    (hfull : 2 ^ 52 ≤ m ∨ e = -1074) : Canonical (settled s m e) (signed s (m * 2 ^ e)) := by
  rcases hm.lt_or_eq with hlt | rfl
  · have hlog : m.log2 < 53 := by
      rcases m.eq_zero_or_pos with rfl | hpos
      · decide
      · exact (Nat.log2_lt hpos.ne').mpr hlt
    have hamount : (max ((m.log2 : ℤ) + e - 52) (-1074) - e).toNat = 0 := by omega
    have hshift : shiftToTargetExponent Format.binary64 m e .exact = (⟨m, false, false⟩, e) := by
      simp only [shiftToTargetExponent, targetExponent_eq, shiftToExponent, hamount]
      exact Prod.ext rfl (add_zero e)
    rw [settled, hshift]
    exact canonical_ofMantissa s hlt hleast hfull
  · have hamount : (max (((2 ^ 53 : ℕ).log2 : ℤ) + e - 52) (-1074) - e).toNat = 1 := by
      rw [Nat.log2_two_pow]
      omega
    have hshift : shiftToTargetExponent Format.binary64 (2 ^ 53) e .exact =
        (⟨2 ^ 52, false, false⟩, e + 1) := by
      simp only [shiftToTargetExponent, targetExponent_eq, shiftToExponent, hamount]
      rfl
    have hvalue : ((2 ^ 53 : ℕ) : ℚ) * 2 ^ e = (2 ^ 52 : ℕ) * 2 ^ (e + 1) := by
      rw [zpow_add_one₀ two_ne_zero]
      push_cast
      ring
    rw [settled, hshift, hvalue]
    exact canonical_ofMantissa s (Nat.pow_lt_pow_succ one_lt_two) (by omega) (.inl le_rfl)

/-- The quotient by the last place has 53 places in front of the point, or fewer near zero. -/
theorem quotient_bounds {x : ℚ} (hx : 0 < x) :
    x / 2 ^ lastPlace x < 2 ^ 53 ∧ (2 ^ 52 ≤ x / 2 ^ lastPlace x ∨ lastPlace x = -1074) := by
  have hlt := Int.lt_zpow_succ_log_self (by norm_num : 1 < 2) x
  have hle := Int.zpow_log_le_self (by norm_num : 1 < 2) hx
  rw [Nat.cast_ofNat] at hlt hle
  constructor
  · rw [div_lt_iff₀ (two_zpow_pos _), ← zpow_natCast, ← zpow_add₀ two_ne_zero]
    refine hlt.trans_le (zpow_le_zpow_right₀ one_le_two ?_)
    unfold lastPlace
    omega
  · by_cases hleast : lastPlace x = -1074
    · exact .inr hleast
    · left
      rw [le_div_iff₀ (two_zpow_pos _), ← zpow_natCast, ← zpow_add₀ two_ne_zero]
      refine (zpow_le_zpow_right₀ one_le_two ?_).trans hle
      unfold lastPlace at hleast ⊢
      omega

theorem canonical_roundWithAccuracy (s : Sign) {m : ℕ} (hm : 0 < m) {e : ℤ}
    (he : e ≤ lastPlace (m * 2 ^ e)) :
    Canonical (roundWithAccuracy Format.binary64 s m e .exact)
      (signed s (rounded (m * 2 ^ e))) := by
  have hpos : 0 < (m : ℚ) * 2 ^ e := mul_pos (Nat.cast_pos.mpr hm) (two_zpow_pos e)
  obtain ⟨hrepresents, hplace⟩ := shiftToExponent_spec m he
  have hmantissa := hrepresents.roundedMantissa
  obtain ⟨hlt, hfull⟩ := quotient_bounds hpos
  have hvalue : rounded (m * 2 ^ e) =
      nearest (m * 2 ^ e / 2 ^ lastPlace (m * 2 ^ e)) * 2 ^ lastPlace (m * 2 ^ e) := by
    rw [rounded, abs_of_pos hpos]
  have hround : roundWithAccuracy Format.binary64 s m e .exact =
      settled s (shiftToExponent m e .exact (lastPlace (m * 2 ^ e))).1.roundedMantissa
        (shiftToExponent m e .exact (lastPlace (m * 2 ^ e))).2 := by
    rw [← lastPlace_mantissa hm]
    rfl
  rw [hround, hvalue, ← hmantissa, hplace, Int.cast_natCast]
  refine canonical_settled s ?_ (le_max_right _ _) ?_
  · have hle : nearest (m * 2 ^ e / 2 ^ lastPlace (m * 2 ^ e)) ≤ (2 ^ 53 : ℤ) :=
      nearest_le (by push_cast; exact hlt.le)
    rw [← hmantissa] at hle
    exact_mod_cast hle
  · refine hfull.imp_left fun hle => ?_
    have hle' : (2 ^ 52 : ℤ) ≤ nearest (m * 2 ^ e / 2 ^ lastPlace (m * 2 ^ e)) :=
      le_nearest (by push_cast; exact hle)
    rw [← hmantissa] at hle'
    exact_mod_cast hle'

theorem decreaseExponent_spec (m : ℕ) (e t : ℤ) :
    ∃ k : ℕ, decreaseExponent m e t = (m * 2 ^ k, e - k) ∧ e - k = min e t := by
  refine ⟨(e - t).toNat, ?_, by omega⟩
  rw [decreaseExponent, Nat.shiftLeft_eq]

theorem mantissa_mul_two_pow (m k : ℕ) (e : ℤ) :
    ((m * 2 ^ k : ℕ) : ℚ) * 2 ^ (e - k) = m * 2 ^ e := by
  push_cast
  rw [mul_assoc, ← zpow_natCast, ← zpow_add₀ two_ne_zero, add_sub_cancel]

theorem canonical_round (s : Sign) {m : ℕ} (hm : 0 < m) (e : ℤ) :
    Canonical (UnpackedFloat.round Format.binary64 s m e) (signed s (rounded (m * 2 ^ e))) := by
  obtain ⟨k, hk, hplace⟩ := decreaseExponent_spec m e (lastPlace (m * 2 ^ e))
  have hvalue := mantissa_mul_two_pow m k e
  have hle : e - k ≤ lastPlace (((m * 2 ^ k : ℕ) : ℚ) * 2 ^ (e - k)) := by
    rw [hvalue, hplace]
    exact min_le_right _ _
  have hround := canonical_roundWithAccuracy s (by positivity : 0 < m * 2 ^ k) hle
  rw [hvalue] at hround
  simp only [UnpackedFloat.round, lastPlace_mantissa hm, hk]
  exact hround

theorem canonical_normalize (n e : ℤ) (zeroSign : Sign) :
    Canonical (UnpackedFloat.normalize Format.binary64 n e zeroSign) (rounded (n * 2 ^ e)) := by
  unfold UnpackedFloat.normalize
  split
  · rename_i hlt
    have hneg : n < 0 := compare_lt_iff_lt.mp hlt
    have hround := canonical_round .negative (by omega : 0 < (-n).toNat) e
    have hvalue : (n : ℚ) * 2 ^ e = -((-n).toNat * 2 ^ e) := by
      have hn : (n : ℚ) = -((-n).toNat : ℤ) := by
        rw [Int.toNat_of_nonneg (by omega)]
        push_cast
        ring
      rw [hn, Int.cast_natCast, neg_mul]
    rw [hvalue, rounded_neg]
    exact hround
  · rename_i heq
    obtain rfl : n = 0 := compare_eq_iff_eq.mp heq
    rw [Int.cast_zero, zero_mul, rounded_zero]
    exact .zero zeroSign
  · rename_i hgt
    have hpos : 0 < n := compare_gt_iff_gt.mp hgt
    have hround := canonical_round .positive (by omega : 0 < n.toNat) e
    have hvalue : ((n.toNat : ℕ) : ℚ) = n := by
      rw [← Int.cast_natCast, Int.toNat_of_nonneg hpos.le]
    rw [hvalue] at hround
    exact hround

end Scriptwright.Rounding
