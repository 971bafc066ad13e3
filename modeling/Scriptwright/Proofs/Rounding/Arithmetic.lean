import Scriptwright.Proofs.Rounding.Operation

/-!
Arithmetic on floats as arithmetic on exact numbers. A float that denotes a number is stored without
loss as long as the number is not out of range, so a sum or a product of floats denotes the exact
one rounded, and floats compare like what they denote.
-/
namespace Scriptwright.Rounding

open Float.Model UnpackedFloat

theorem unpackSign_packComponents (spec : Format) (s : Sign) (e : BitVec spec.exponentBits)
    (m : BitVec spec.mantissaBitsWithoutImplicit) :
    unpackSign (packComponents spec s e m) = s.toBitVec := by
  unfold unpackSign packComponents
  ext i hi
  obtain rfl : i = 0 := by omega
  simp [BitVec.getLsbD_append, BitVec.getElem_append]

theorem ofBitVec_toBitVec (s : Sign) : Sign.ofBitVec s.toBitVec = s := by
  cases s <;> rfl

theorem toNat_ofNat_of_lt {w n : ℕ} (h : n < 2 ^ w) : (BitVec.ofNat w n).toNat = n := by
  rw [BitVec.toNat_ofNat, Nat.mod_eq_of_lt h]

theorem ofNat_ne {w n : ℕ} (h : n < 2 ^ w) {b : BitVec w} (hne : n ≠ b.toNat) :
    BitVec.ofNat w n ≠ b := by
  intro heq
  apply hne
  rw [← heq, toNat_ofNat_of_lt h]

theorem pack_finite (s : Sign) (m : ℕ) (e : ℤ) (hpos : 0 < m) :
    UnpackedFloat.pack Format.binary64 (.finite s m e hpos) =
      if 2 ^ 11 ≤ (e + 1075).toNat + 1 then packedInfinity Format.binary64 s
      else if m.log2 + 1 = 53 then
        packComponents Format.binary64 s (BitVec.ofNat 11 (e + 1075).toNat) (BitVec.ofNat 52 m)
      else packComponents Format.binary64 s 0#11 (BitVec.ofNat 52 m) := by
  have hbiased : e + 1075 = e + (1023 : ℕ) + (52 : ℕ) := by omega
  rw [hbiased]
  rfl

theorem toNat_pos_of_ne {w : ℕ} {m : BitVec w} (h : m ≠ 0#w) : 0 < m.toNat := by
  apply Nat.pos_of_ne_zero
  intro hzero
  exact h (BitVec.eq_of_toNat_eq hzero)

theorem toNat_one_append_pos {w : ℕ} (m : BitVec w) : 0 < (1#1 ++ m).toNat := by
  rw [BitVec.toNat_append]
  simp

theorem finite_congr {s : Sign} {m n : ℕ} {e t : ℤ} {hm : 0 < m} {hn : 0 < n} (hmn : m = n)
    (het : e = t) : UnpackedFloat.finite s m e hm = .finite s n t hn := by
  subst hmn het
  rfl

def ofFields (s : Sign) (e : BitVec 11) (m : BitVec 52) : UnpackedFloat :=
  if e = -1#11 then if m = 0#52 then .infinity s else .notANumber
  else if e = 0#11 then
    if h : m = 0#52 then .zero s
    else .finite s m.toNat ((e.toNat : ℤ) - 1075 + 1) (toNat_pos_of_ne h)
  else .finite s (1#1 ++ m).toNat ((e.toNat : ℤ) - 1075) (toNat_one_append_pos m)

theorem unpack_eq (b : BitVec 64) : UnpackedFloat.unpack Format.binary64 b =
    ofFields (Sign.ofBitVec (@unpackSign Format.binary64 b)) (@unpackExponent Format.binary64 b)
      (@unpackMantissa Format.binary64 b) := rfl

theorem unpack_packComponents (s : Sign) (e : BitVec 11) (m : BitVec 52) :
    UnpackedFloat.unpack Format.binary64 (packComponents Format.binary64 s e m) =
      ofFields s e m := by
  rw [unpack_eq, unpackMantissa_packComponents, unpackExponent_packComponents,
    unpackSign_packComponents, ofBitVec_toBitVec]

theorem unpack_pack_full (s : Sign) {m : ℕ} {e : ℤ} (hpos : 0 < m) (hlt : m < 2 ^ 53)
    (hfull : 2 ^ 52 ≤ m) (hleast : -1074 ≤ e) (hgreatest : e ≤ 971) :
    UnpackedFloat.unpack Format.binary64 (UnpackedFloat.pack Format.binary64 (.finite s m e hpos)) =
      .finite s m e hpos := by
  have hlog : m.log2 + 1 = 53 := by
    have hlow := (Nat.le_log2 hpos.ne').mpr hfull
    have hhigh := (Nat.log2_lt hpos.ne').mpr hlt
    omega
  have hfield : (e + 1075).toNat < 2 ^ 11 := by omega
  have hones : BitVec.ofNat 11 (e + 1075).toNat ≠ -1#11 :=
    ofNat_ne hfield (by rw [show (-1#11).toNat = 2047 from rfl]; omega)
  have hzero : BitVec.ofNat 11 (e + 1075).toNat ≠ 0#11 :=
    ofNat_ne hfield (by rw [BitVec.toNat_zero]; omega)
  have hmantissa : (1#1 ++ BitVec.ofNat 52 m).toNat = m := by
    rw [BitVec.toNat_append, ← Nat.shiftLeft_add_eq_or_of_lt (BitVec.ofNat 52 m).isLt,
      Nat.shiftLeft_eq, BitVec.toNat_ofNat, BitVec.toNat_ofNat]
    omega
  have hexponent : ((BitVec.ofNat 11 (e + 1075).toNat).toNat : ℤ) - 1075 = e := by
    rw [toNat_ofNat_of_lt hfield]
    omega
  rw [pack_finite, if_neg (by omega), if_pos hlog, unpack_packComponents, ofFields,
    if_neg hones, if_neg hzero]
  exact finite_congr hmantissa hexponent

theorem unpack_pack_small (s : Sign) {m : ℕ} (hpos : 0 < m) (hlt : m < 2 ^ 52) :
    UnpackedFloat.unpack Format.binary64
      (UnpackedFloat.pack Format.binary64 (.finite s m (-1074) hpos)) =
      .finite s m (-1074) hpos := by
  have hlog : m.log2 + 1 ≠ 53 := by
    have hhigh := (Nat.log2_lt hpos.ne').mpr hlt
    omega
  have hmantissa : BitVec.ofNat 52 m ≠ 0#52 :=
    ofNat_ne hlt (by rw [BitVec.toNat_zero]; omega)
  rw [pack_finite, if_neg (by decide), if_neg hlog, unpack_packComponents, ofFields,
    if_neg (by decide), if_pos rfl, dif_neg hmantissa]
  exact finite_congr (toNat_ofNat_of_lt hlt) rfl

/-- Nothing in range is lost by storing it. -/
theorem Canonical.unpack_pack {f : UnpackedFloat} {x : ℚ} (h : Canonical f x)
    (hx : |x| < 2 ^ (1024 : ℤ)) :
    UnpackedFloat.unpack Format.binary64 (UnpackedFloat.pack Format.binary64 f) = f := by
  cases h with
  | zero s => cases s <;> rfl
  | @finite s m e hpos hlt hleast hfull =>
    by_cases hm : 2 ^ 52 ≤ m
    · refine unpack_pack_full s hpos hlt hm hleast ?_
      have habs : |signed s ((m : ℚ) * 2 ^ e)| = m * 2 ^ e := by
        have hnonneg : 0 ≤ (m : ℚ) * 2 ^ e := mul_nonneg (Nat.cast_nonneg m) (two_zpow_pos e).le
        cases s
        · exact (abs_neg _).trans (abs_of_nonneg hnonneg)
        · exact abs_of_nonneg hnonneg
      have hlow : (2 : ℚ) ^ (52 + e) < 2 ^ (1024 : ℤ) := by
        have hm' : (2 : ℚ) ^ (52 : ℤ) ≤ m := by exact_mod_cast hm
        rw [zpow_add₀ two_ne_zero]
        rw [habs] at hx
        exact (mul_le_mul_of_nonneg_right hm' (two_zpow_pos e).le).trans_lt hx
      have hexponent := (zpow_lt_zpow_iff_right₀ one_lt_two).mp hlow
      omega
    · obtain rfl := hfull.resolve_left hm
      exact unpack_pack_small s hpos (by omega)

/-- The float is finite and stands for this number. -/
def Denotes (a : Float) (x : ℚ) : Prop := Canonical a.toModel.unpack x

/-- A bound that rounding cannot push out of range. -/
def Tame (x : ℚ) : Prop := |x| ≤ 2 ^ (1023 : ℤ)

theorem Tame.rounded {x : ℚ} (h : Tame x) : Tame (rounded x) := abs_rounded_le (by norm_num) h

variable {f : UnpackedFloat} {a b : Float} {x y : ℚ}

theorem denotes_ofModel_pack (h : Canonical f x) (hx : Tame x) :
    Denotes (.ofModel (.pack f)) x := by
  have hlt : |x| < 2 ^ (1024 : ℤ) :=
    hx.trans_lt (zpow_lt_zpow_right₀ one_lt_two (by norm_num))
  have hunpack : (Float.Model.pack f).unpack = f := h.unpack_pack hlt
  rw [Denotes, hunpack]
  exact h

theorem Denotes.neg (ha : Denotes a x) (hx : Tame x) : Denotes (-a) (-x) :=
  denotes_ofModel_pack (Canonical.neg ha) (by rwa [Tame, abs_neg])

theorem Denotes.add (ha : Denotes a x) (hb : Denotes b y) (h : Tame (x + y)) :
    Denotes (a + b) (rounded (x + y)) :=
  denotes_ofModel_pack (Canonical.add ha hb) h.rounded

theorem Denotes.mul (ha : Denotes a x) (hb : Denotes b y) (h : Tame (x * y)) :
    Denotes (a * b) (rounded (x * y)) :=
  denotes_ofModel_pack (Canonical.mul ha hb) h.rounded

theorem Denotes.le_iff (ha : Denotes a x) (hb : Denotes b y) : a ≤ b ↔ x ≤ y :=
  (decide_eq_true_iff).trans (Canonical.le_iff ha hb)

theorem denotes_toFloat (n : UInt64) : Denotes n.toFloat (rounded n.toNat) := by
  have hcanonical := canonical_normalize n.toNat 0 .positive
  rw [zpow_zero, mul_one, Int.cast_natCast] at hcanonical
  have htame : Tame (n.toNat : ℚ) := by
    have hlt : (n.toNat : ℚ) < 2 ^ 64 := by exact_mod_cast n.toNat_lt
    have hle : (2 : ℚ) ^ (64 : ℤ) ≤ 2 ^ (1023 : ℤ) :=
      zpow_le_zpow_right₀ one_le_two (by norm_num)
    rw [Tame, abs_of_nonneg (Nat.cast_nonneg _)]
    exact hlt.le.trans hle
  exact denotes_ofModel_pack hcanonical htame.rounded

end Scriptwright.Rounding
