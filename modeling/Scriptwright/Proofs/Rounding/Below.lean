import Scriptwright.Proofs.Rounding.Arithmetic

/-!
Two computations on floats side by side. Where every number of one is at most its counterpart in the
other, so is every sum and every product with the same factor, for rounding keeps the order. Bounds
on the magnitudes go along, so that nothing leaves the range of floats.
-/
namespace Scriptwright.Rounding

/-- The first float denotes at most what the second one does, and neither has more than `k` binary
places in front of its point. -/
def Below (k : ℕ) (a b : Float) : Prop :=
  ∃ x y : ℚ, Denotes a x ∧ Denotes b y ∧ x ≤ y ∧ |x| ≤ 2 ^ (k : ℤ) ∧ |y| ≤ 2 ^ (k : ℤ)

theorem tame_of_abs_le {k : ℕ} (hk : k ≤ 1023) {x : ℚ} (h : |x| ≤ 2 ^ (k : ℤ)) : Tame x :=
  h.trans (zpow_le_zpow_right₀ one_le_two (by exact_mod_cast hk))

theorem abs_rounded_le_places {k : ℕ} {x : ℚ} (h : |x| ≤ 2 ^ (k : ℤ)) :
    |rounded x| ≤ 2 ^ (k : ℤ) := abs_rounded_le (by omega) h

theorem abs_add_le_places {k : ℕ} {x y : ℚ} (hx : |x| ≤ 2 ^ (k : ℤ)) (hy : |y| ≤ 2 ^ (k : ℤ)) :
    |x + y| ≤ 2 ^ ((k + 1 : ℕ) : ℤ) := by
  have hsum := abs_add_le x y
  rw [Nat.cast_add_one, zpow_add_one₀ two_ne_zero]
  linarith

theorem abs_mul_le_places {k : ℕ} {x z : ℚ} (hx : |x| ≤ 2 ^ (k : ℤ)) (hz : |z| ≤ 4) :
    |x * z| ≤ 2 ^ ((k + 2 : ℕ) : ℤ) := by
  have hfour : (2 : ℚ) ^ ((k + 2 : ℕ) : ℤ) = 2 ^ (k : ℤ) * 4 := by
    rw [Nat.cast_add, zpow_add₀ two_ne_zero]
    norm_num
  rw [abs_mul, hfour]
  exact mul_le_mul hx hz (abs_nonneg z) (two_zpow_pos k).le

theorem abs_le_places {k : ℕ} {z : ℚ} (hz : |z| ≤ 4) (hk : 2 ≤ k) : |z| ≤ 2 ^ (k : ℤ) := by
  have hfour : (2 : ℚ) ^ (2 : ℤ) ≤ 2 ^ (k : ℤ) :=
    zpow_le_zpow_right₀ one_le_two (by exact_mod_cast hk)
  norm_num at hfour
  exact hz.trans hfour

variable {k l : ℕ} {a b c d : Float}

theorem Below.weaken (h : Below k a b) (hkl : k ≤ l) : Below l a b := by
  obtain ⟨x, y, ha, hb, hle, hx, hy⟩ := h
  have hpow : (2 : ℚ) ^ (k : ℤ) ≤ 2 ^ (l : ℤ) :=
    zpow_le_zpow_right₀ one_le_two (by exact_mod_cast hkl)
  exact ⟨x, y, ha, hb, hle, hx.trans hpow, hy.trans hpow⟩

theorem Below.neg (h : Below k a b) (hk : k ≤ 1023) : Below k (-b) (-a) := by
  obtain ⟨x, y, ha, hb, hle, hx, hy⟩ := h
  refine ⟨-y, -x, hb.neg (tame_of_abs_le hk hy), ha.neg (tame_of_abs_le hk hx),
    neg_le_neg hle, ?_, ?_⟩
  · rwa [abs_neg]
  · rwa [abs_neg]

theorem Below.add (h : Below k a b) (h' : Below k c d) (hk : k < 1023) :
    Below (k + 1) (a + c) (b + d) := by
  obtain ⟨x, y, ha, hb, hle, hx, hy⟩ := h
  obtain ⟨x', y', hc, hd, hle', hx', hy'⟩ := h'
  have hleft := abs_add_le_places hx hx'
  have hright := abs_add_le_places hy hy'
  exact ⟨_, _, ha.add hc (tame_of_abs_le hk hleft), hb.add hd (tame_of_abs_le hk hright),
    rounded_mono (add_le_add hle hle'), abs_rounded_le_places hleft,
    abs_rounded_le_places hright⟩

/-- The float denotes a number from zero to four. -/
def Small (c : Float) : Prop := ∃ z : ℚ, Denotes c z ∧ 0 ≤ z ∧ |z| ≤ 4

theorem denotes_of_unpack {m : ℕ} {e : ℤ} (hpos : 0 < m)
    (h : c.toModel.unpack = .finite .positive m e hpos)
    (hrange : m < 2 ^ 53 ∧ 2 ^ 52 ≤ m ∧ -1074 ≤ e) : Denotes c (m * 2 ^ e) := by
  obtain ⟨hlt, hfull, hleast⟩ := hrange
  rw [Denotes, h]
  exact .finite .positive hpos hlt hleast (.inl hfull)

theorem Denotes.small {z : ℚ} (h : Denotes c z) (hnonneg : 0 ≤ z) (hle : z ≤ 4) : Small c :=
  ⟨z, h, hnonneg, by rwa [abs_of_nonneg hnonneg]⟩

theorem Small.below_self (hc : Small c) (hk : 2 ≤ k) : Below k c c := by
  obtain ⟨z, hc, -, hz⟩ := hc
  have hplaces := abs_le_places hz hk
  exact ⟨z, z, hc, hc, le_rfl, hplaces, hplaces⟩

theorem Below.mul_right (h : Below k a b) (hc : Small c) (hk : k < 1022) :
    Below (k + 2) (a * c) (b * c) := by
  obtain ⟨x, y, ha, hb, hle, hx, hy⟩ := h
  obtain ⟨z, hc, hnonneg, hz⟩ := hc
  have hleft := abs_mul_le_places hx hz
  have hright := abs_mul_le_places hy hz
  exact ⟨_, _, ha.mul hc (tame_of_abs_le (by omega) hleft),
    hb.mul hc (tame_of_abs_le (by omega) hright),
    rounded_mono (mul_le_mul_of_nonneg_right hle hnonneg), abs_rounded_le_places hleft,
    abs_rounded_le_places hright⟩

theorem Below.mul_left (h : Below k a b) (hc : Small c) (hk : k < 1022) :
    Below (k + 2) (c * a) (c * b) := by
  obtain ⟨x, y, ha, hb, hle, hx, hy⟩ := h
  obtain ⟨z, hc, hnonneg, hz⟩ := hc
  have hleft := abs_mul_le_places hx hz
  have hright := abs_mul_le_places hy hz
  rw [mul_comm] at hleft hright
  exact ⟨_, _, hc.mul ha (tame_of_abs_le (by omega) hleft),
    hc.mul hb (tame_of_abs_le (by omega) hright),
    rounded_mono (mul_le_mul_of_nonneg_left hle hnonneg), abs_rounded_le_places hleft,
    abs_rounded_le_places hright⟩

theorem Below.add_small (h : Below k a b) (hc : Small c) (hk : 2 ≤ k) (hk' : k < 1023) :
    Below (k + 1) a (b + c) := by
  obtain ⟨x, y, ha, hb, hle, hx, hy⟩ := h
  obtain ⟨z, hc, hnonneg, hz⟩ := hc
  have hplaces := abs_add_le_places hy (abs_le_places hz hk)
  have hsum : x ≤ rounded (y + z) := by
    rw [← ha.rounded]
    exact rounded_mono (hle.trans (le_add_of_nonneg_right hnonneg))
  have hpow : (2 : ℚ) ^ (k : ℤ) ≤ 2 ^ ((k + 1 : ℕ) : ℤ) :=
    zpow_le_zpow_right₀ one_le_two (by exact_mod_cast k.le_succ)
  exact ⟨x, _, ha, hb.add hc (tame_of_abs_le hk' hplaces), hsum, hx.trans hpow,
    abs_rounded_le_places hplaces⟩

theorem Below.add_ite {p q : Bool} (h : Below k a b) (hpq : p = true → q = true) (hc : Small c)
    (hk : 2 ≤ k) (hk' : k < 1023) :
    Below (k + 1) (if p = true then a + c else a) (if q = true then b + c else b) := by
  cases hp : p with
  | true =>
    rw [if_pos rfl, if_pos (hpq hp)]
    exact h.add (hc.below_self hk) hk'
  | false =>
    rw [if_neg Bool.false_ne_true]
    cases q with
    | true => exact h.add_small hc hk hk'
    | false => exact h.weaken k.le_succ

theorem below_toFloat {m n : ℕ} (h : m ≤ n) (hn : n < 2 ^ 64) :
    Below 64 m.toUInt64.toFloat n.toUInt64.toFloat := by
  have hvalue : ∀ i : ℕ, i < 2 ^ 64 → i.toUInt64.toNat = i := fun i hi =>
    UInt64.toNat_ofNat_of_lt' hi
  have hbound : ∀ i : ℕ, i < 2 ^ 64 → |rounded i| ≤ 2 ^ ((64 : ℕ) : ℤ) := by
    intro i hi
    apply abs_rounded_le_places
    rw [abs_of_nonneg (Nat.cast_nonneg i)]
    exact_mod_cast hi.le
  have hleft := denotes_toFloat m.toUInt64
  have hright := denotes_toFloat n.toUInt64
  rw [hvalue m (h.trans_lt hn)] at hleft
  rw [hvalue n hn] at hright
  exact ⟨_, _, hleft, hright, rounded_mono (by exact_mod_cast h), hbound m (h.trans_lt hn),
    hbound n hn⟩

theorem Below.add_count {m n : ℕ} (h : Below k a b) (hmn : m ≤ n) (hn : n < 2 ^ 64) (hc : Small c)
    (hk : 66 ≤ k) (hk' : k < 1023) :
    Below (k + 1) (a + m.toUInt64.toFloat * c) (b + n.toUInt64.toFloat * c) := by
  have hcount := (below_toFloat hmn hn).mul_right hc (by norm_num)
  exact h.add (hcount.weaken hk) hk'

theorem Below.le_of_le (h : Below k a b) (hc : Small c) (hle : b ≤ c) : a ≤ c := by
  obtain ⟨x, y, ha, hb, hxy, -, -⟩ := h
  obtain ⟨z, hc, -, -⟩ := hc
  exact (ha.le_iff hc).mpr (hxy.trans ((hb.le_iff hc).mp hle))

end Scriptwright.Rounding
