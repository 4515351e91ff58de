import CodecBench.Proofs.Overflow
import CodecBench.Proofs.Writing
/-!
When a numeral is read as the double nearest to it. A float that stands for a number rounded to a multiple of a step,
at full width, is nearest to that number (`Rounds.isNearest`): other multiples are half a step off at least, and floats
on a finer grid are all too small. A product and a quotient of floats are rounded in this way, once. So a numeral is
read as the nearest double if its digits and the power of ten are floats themselves (`Numeral.exists_isNearest`); if
they are not, they have been rounded before.
-/

namespace CodecBench
open Float.Model Float.Model.UnpackedFloat

section Full
variable {sign : Sign} {m : Nat} {e : Int}

theorem pack_full (hm : 0 < m) (hlow : 2 ^ 52 ≤ m) (hhigh : m < 2 ^ 53) (he : -1074 ≤ e) (he' : e ≤ 971) :
    UnpackedFloat.pack .binary64 (.finite sign m e hm) =
      packComponents .binary64 sign (BitVec.ofNat _ (e + 1075).toNat) (BitVec.ofNat _ m) := by
  have hbias := exponentBias_binary64
  have hexp := two_pow_exponentBits_binary64
  have hbits : Format.binary64.mantissaBits = 53 := rfl
  have hlog : m.log2 = 52 := (Nat.log2_eq_iff (by omega)).2 ⟨hlow, hhigh⟩
  unfold UnpackedFloat.pack
  simp only [hbias, hexp, hlog, hbits]
  rw [if_neg (by omega), if_pos trivial]
  congr 2
  omega

theorem toNat_one_append_mantissa (hlow : 2 ^ 52 ≤ m) (hhigh : m < 2 ^ 53) :
    (1#1 ++ BitVec.ofNat Format.binary64.mantissaBitsWithoutImplicit m).toNat = m := by
  rw [BitVec.toNat_append, ← Nat.shiftLeft_add_eq_or_of_lt (BitVec.isLt _)]
  change 2 ^ 52 + m % 2 ^ 52 = m
  omega

theorem stored_finite (hm : 0 < m) (hlow : 2 ^ 52 ≤ m) (hhigh : m < 2 ^ 53) (he : -1074 ≤ e) (he' : e ≤ 971) :
    stored (.finite sign m e hm) = .finite sign m e hm := by
  have hbias := exponentBias_binary64
  have hexp := two_pow_exponentBits_binary64
  have hwidth := mantissaBitsWithoutImplicit_binary64
  have hne : BitVec.ofNat Format.binary64.exponentBits (e + 1075).toNat ≠ 0#_ := by
    intro h
    have h' := congrArg BitVec.toNat h
    rw [BitVec.toNat_ofNat, Nat.mod_eq_of_lt (by omega)] at h'
    simp at h'
    omega
  have hsign : Sign.ofBitVec sign.toBitVec = sign := by
    cases sign <;> rfl
  rw [stored, pack_full hm hlow hhigh he he']
  unfold UnpackedFloat.unpack
  simp only [unpackExponent_packComponents, unpackMantissa_packComponents, unpackSign_packComponents, hsign,
    toNat_one_append_mantissa hlow hhigh]
  rw [if_neg (ofNat_exponent_ne (by omega)), if_neg hne]
  congr 1
  rw [BitVec.toNat_ofNat, Nat.mod_eq_of_lt (by omega)]
  omega

end Full

theorem Represents.two_mul_roundedMantissa {em : ExtendedMantissa} {n d : Nat} (hd : 0 < d) (h : Represents em n d) :
    2 * n ≤ 2 * (d * em.roundedMantissa) + d ∧ 2 * (d * em.roundedMantissa) ≤ 2 * n + d ∧
      (2 * n = 2 * (d * em.roundedMantissa) + d ∨ 2 * (d * em.roundedMantissa) = 2 * n + d →
        em.roundedMantissa % 2 = 0) := by
  obtain ⟨hm, hr, hs⟩ := h
  have hn : d * (n / d) + n % d = n := Nat.div_add_mod n d
  have hx : n % d < d := Nat.mod_lt n hd
  have hsucc : d * (n / d + 1) = d * (n / d) + d := Nat.mul_succ d (n / d)
  obtain ⟨m, r, s⟩ := em
  simp only at hm hr hs
  subst hm
  cases r <;> cases s <;>
    simp [ExtendedMantissa.roundedMantissa, ExtendedMantissa.accuracy, Accuracy.roundToNearestEven] at hr hs ⊢
  · omega
  · omega
  · obtain h0 | h1 := Nat.mod_two_eq_zero_or_one (n / d)
    · rw [h0, Nat.add_zero]
      omega
    · rw [h1]
      omega
  · omega

def signFactor : Sign → ℚ
  | .negative => -1
  | .positive => 1

def rational (x : Float) : ℚ :=
  match x.toModel.unpack with
  | .finite sign m e _ => signFactor sign * (m * 2 ^ e)
  | _ => 0

def HasEvenMantissa (x : Float) : Prop :=
  match x.toModel.unpack with
  | .finite _ m _ _ => m % 2 = 0
  | _ => True

/-- No finite float is nearer to the number, and of two that are equally near this one is even. -/
def IsNearest (x : Float) (q : ℚ) : Prop :=
  x.isFinite ∧ ∀ y : Float, y.isFinite → |rational x - q| < |rational y - q| ∨
    |rational x - q| = |rational y - q| ∧ (rational y = rational x ∨ HasEvenMantissa x)

section Nearest
variable {x : Float} {sign : Sign} {m : Nat} {e : Int} {hm : 0 < m}

theorem rational_of_unpack (h : x.toModel.unpack = .finite sign m e hm) :
    rational x = signFactor sign * (m * 2 ^ e) := by
  rw [rational, h]

theorem abs_signFactor_mul (sign : Sign) (a b : ℚ) : |signFactor sign * a - signFactor sign * b| = |a - b| := by
  cases sign with
  | negative => rw [signFactor, neg_one_mul, neg_one_mul, neg_sub_neg, abs_sub_comm]
  | positive => rw [signFactor, one_mul, one_mul]

theorem half_le_abs_sub {r z : ℤ} {u q : ℚ} (hu : 0 < u) (hr : |r * u - q| ≤ u / 2) (hz : z ≠ r) :
    u / 2 ≤ |z * u - q| := by
  have hone : (1 : ℚ) ≤ |((z - r : ℤ) : ℚ)| := by
    exact_mod_cast Int.one_le_abs (sub_ne_zero.2 hz)
  have hstep : u ≤ |z * u - r * u| := by
    rw [← sub_mul, abs_mul, abs_of_pos hu, ← Int.cast_sub]
    exact le_mul_of_one_le_left hu.le hone
  have htri : |z * u - r * u| ≤ |z * u - q| + |r * u - q| := by
    rw [abs_sub_comm (r * u) q]
    exact abs_sub_le _ _ _
  linarith

/-- A float with a mantissa of full width is a number rounded to a multiple of a step, which is so small that the number
has the full width as well. -/
structure Rounds (x : Float) (sign : Sign) (q : ℚ) (m : Nat) (e : Int) (r : Nat) (j : Int) : Prop where
  unpack_eq : ∃ hm, x.toModel.unpack = .finite sign m e hm
  low : 2 ^ 52 ≤ m
  high : m < 2 ^ 53
  least : -1074 ≤ e
  greatest : e ≤ 971
  value : (m * 2 ^ e : ℚ) = r * 2 ^ j
  full : 2 ^ 52 * 2 ^ j ≤ q
  close : |r * 2 ^ j - q| ≤ 2 ^ j / 2
  even : |r * 2 ^ j - q| = 2 ^ j / 2 → m % 2 = 0

theorem Rounds.neg {q : ℚ} {r : Nat} {j : Int} (h : Rounds x .positive q m e r j) :
    Rounds (-x) .negative q m e r j where
  __ := h
  unpack_eq := by
    obtain ⟨hm, hx⟩ := h.unpack_eq
    have hneg : (-x).toModel.unpack = stored (UnpackedFloat.neg x.toModel.unpack) := rfl
    rw [hx] at hneg
    exact ⟨hm, hneg.trans (stored_finite hm h.low h.high h.least h.greatest)⟩

theorem Rounds.abs_sub_lt {q a : ℚ} {r : Nat} {j : Int} (h : Rounds x sign q m e r j) (ha : a < 2 ^ 52 * 2 ^ j) :
    |r * 2 ^ j - q| < |a - q| := by
  have hstep : (0 : ℚ) < 2 ^ j := by positivity
  have hq := h.full
  have hlow : |(r : ℚ) * 2 ^ j - q| ≤ q - 2 ^ 52 * 2 ^ j := by
    by_cases hr : r = 2 ^ 52
    · rw [hr, abs_sub_comm, abs_of_nonneg (by push_cast; linarith)]
      push_cast
      exact le_rfl
    · have hz : ((2 ^ 52 : ℕ) : ℤ) ≠ (r : ℤ) := fun h => hr (by exact_mod_cast h.symm)
      have hhalf := half_le_abs_sub (r := r) hstep (by exact_mod_cast h.close) hz
      rw [abs_sub_comm, abs_of_nonneg (by push_cast; linarith)] at hhalf
      push_cast at hhalf
      linarith [h.close]
  calc |(r : ℚ) * 2 ^ j - q| ≤ q - 2 ^ 52 * 2 ^ j := hlow
    _ < q - a := by linarith
    _ = |a - q| := by rw [abs_sub_comm, abs_of_pos (by linarith)]

theorem Rounds.abs_sub_le_of_multiple {q : ℚ} {r : Nat} {j z : Int} (h : Rounds x sign q m e r j) (hz : z ≠ r) :
    |r * 2 ^ j - q| < |z * 2 ^ j - q| ∨ |r * 2 ^ j - q| = |z * 2 ^ j - q| ∧ m % 2 = 0 := by
  have hstep : (0 : ℚ) < 2 ^ j := by positivity
  have hhalf := half_le_abs_sub hstep (by exact_mod_cast h.close) hz
  obtain hlt | heq := lt_or_eq_of_le (h.close.trans hhalf)
  · exact .inl hlt
  · exact .inr ⟨heq, h.even (le_antisymm h.close (heq ▸ hhalf))⟩

theorem mul_two_zpow_lt {m : Nat} {e j : Int} (hm : m < 2 ^ 53) (he : e < j) : (m * 2 ^ e : ℚ) < 2 ^ 52 * 2 ^ j := by
  have hm53 : (m : ℚ) < 2 ^ 53 := by exact_mod_cast hm
  have hgrid : (2 : ℚ) ^ e ≤ 2 ^ (j - 1) := zpow_le_zpow_right₀ one_le_two (by omega)
  calc (m : ℚ) * 2 ^ e < 2 ^ 53 * 2 ^ e := by gcongr
    _ ≤ 2 ^ 53 * 2 ^ (j - 1) := by gcongr
    _ = 2 ^ 52 * 2 ^ j := by
      rw [zpow_sub₀ two_ne_zero]
      ring

theorem mul_two_zpow_eq {m : Nat} {e j : Int} (he : j ≤ e) :
    (m * 2 ^ e : ℚ) = ((m * 2 ^ (e - j).toNat : ℕ) : ℤ) * 2 ^ j := by
  have he' : e = (e - j).toNat + j := by omega
  rw [he', zpow_add₀ two_ne_zero, zpow_natCast]
  push_cast
  rw [← he', mul_assoc]

/-- A rounded multiple of such a step is nearest. Floats on a finer grid are all below the full width. -/
theorem Rounds.isNearest {q : ℚ} {r : Nat} {j : Int} (h : Rounds x sign q m e r j) :
    IsNearest x (signFactor sign * q) := by
  obtain ⟨hm, hunpack⟩ := h.unpack_eq
  have hx : rational x = signFactor sign * (r * 2 ^ j) := by
    rw [rational_of_unpack hunpack, h.value]
  have hwidth : (0 : ℚ) < 2 ^ 52 * 2 ^ j := by positivity
  refine ⟨by rw [isFinite_eq, hunpack]; rfl, fun y hy => ?_⟩
  obtain ⟨sign', hu⟩ | ⟨sign', m', e', hm', hu, -⟩ := finite_cases hy
  · have hy0 : rational y = signFactor sign * 0 := by
      rw [rational, hu, mul_zero]
    rw [hx, hy0, abs_signFactor_mul, abs_signFactor_mul]
    exact .inl (h.abs_sub_lt hwidth)
  · by_cases hs : sign' = sign
    · subst hs
      rw [hx, rational_of_unpack hu, abs_signFactor_mul, abs_signFactor_mul]
      by_cases he : e' < j
      · exact .inl (h.abs_sub_lt (mul_two_zpow_lt (fits_of_unpack hu).1 he))
      · rw [mul_two_zpow_eq (not_lt.1 he)]
        by_cases hz : ((m' * 2 ^ (e' - j).toNat : ℕ) : ℤ) = r
        · rw [hz]
          exact .inr ⟨rfl, .inl rfl⟩
        · refine (h.abs_sub_le_of_multiple hz).imp_right fun heven => ⟨heven.1, .inr ?_⟩
          rw [HasEvenMantissa, hunpack]
          exact heven.2
    · have hopposite : rational y = signFactor sign * -(m' * 2 ^ e') := by
        rw [rational_of_unpack hu]
        cases sign <;> cases sign' <;> simp_all [signFactor]
      have hpos : (0 : ℚ) < m' * 2 ^ e' := by
        have hm0 : (0 : ℚ) < m' := by exact_mod_cast hm'
        positivity
      rw [hx, hopposite, abs_signFactor_mul, abs_signFactor_mul]
      exact .inl (h.abs_sub_lt (by linarith))

end Nearest

theorem abs_sub_fraction_le {r n D : Nat} {u : ℚ} (hu : 0 < u) (hD : 0 < D) (hlow : 2 * n ≤ 2 * (D * r) + D)
    (hhigh : 2 * (D * r) ≤ 2 * n + D) :
    |r * u - n / D * u| ≤ u / 2 ∧
      (|r * u - n / D * u| = u / 2 → 2 * n = 2 * (D * r) + D ∨ 2 * (D * r) = 2 * n + D) := by
  have hD' : (0 : ℚ) < D := by exact_mod_cast hD
  have hdist : |r * u - n / D * u| = |(D * r - n : ℚ)| * (u / D) := by
    rw [← abs_of_pos (div_pos hu hD'), ← abs_mul]
    congr 1
    field_simp
  have hhalf : u / 2 = D / 2 * (u / D) := by field_simp
  have hlow' : (2 * n : ℚ) ≤ 2 * (D * r) + D := by exact_mod_cast hlow
  have hhigh' : (2 * (D * r) : ℚ) ≤ 2 * n + D := by exact_mod_cast hhigh
  have habs : |(D * r - n : ℚ)| ≤ D / 2 := abs_le.2 ⟨by linarith, by linarith⟩
  rw [hdist, hhalf]
  refine ⟨mul_le_mul_of_nonneg_right habs (div_pos hu hD').le, fun heq => ?_⟩
  have heq' := mul_right_cancel₀ (div_pos hu hD').ne' heq
  obtain hpos | hneg := abs_choice (D * r - n : ℚ)
  · right
    rw [hpos] at heq'
    have hnat : (2 * (D * r) : ℚ) = 2 * n + D := by linarith
    exact_mod_cast hnat
  · left
    rw [hneg] at heq'
    have hnat : (2 * n : ℚ) = 2 * (D * r) + D := by linarith
    exact_mod_cast hnat

theorem exists_rounds {x : Float} {sign : Sign} {m n d k : Nat} {e : Int} {acc : Accuracy} (hd : 0 < d)
    (h : Represents (.ofMantissaAndAccuracy m acc) n d)
    (hk : k = (Format.binary64.targetExponent (totalExponent m e) - e).toNat) (hfull : 2 ^ (52 + k) * d ≤ n)
    (he : e + k ≤ 970) (hx : x.toModel.unpack = stored (roundWithAccuracy .binary64 sign m e acc)) :
    ∃ m' e' r j, Rounds x sign (n / d * 2 ^ e) m' e' r j := by
  have hmin := le_add_shift hk
  have hD : 0 < 2 ^ k * d := Nat.mul_pos (Nat.two_pow_pos k) hd
  have hrep := h.shiftRight hd k
  have hm52 : 2 ^ 52 ≤ (ExtendedMantissa.ofMantissaAndAccuracy m acc >>> k).mantissa := by
    rw [hrep.mantissa, Nat.le_div_iff_mul_le hD, ← Nat.mul_assoc, ← Nat.pow_add]
    exact hfull
  have hm53 := shifted_mantissa_lt hk acc
  have hcases := roundedMantissa_cases (ExtendedMantissa.ofMantissaAndAccuracy m acc >>> k)
  obtain ⟨hlow, hhigh, heven⟩ := hrep.two_mul_roundedMantissa hD
  rw [roundWithAccuracy_binary64 hk sign acc rfl] at hx
  generalize (ExtendedMantissa.ofMantissaAndAccuracy m acc >>> k).roundedMantissa = r at *
  have hq : (n / d * 2 ^ e : ℚ) = n / (2 ^ k * d : ℕ) * 2 ^ (e + k) := by
    have hd' : (d : ℚ) ≠ 0 := by exact_mod_cast hd.ne'
    rw [zpow_add₀ two_ne_zero, zpow_natCast]
    push_cast
    field_simp
  have hstep : (0 : ℚ) < 2 ^ (e + k) := by positivity
  obtain ⟨hclose, htie⟩ := abs_sub_fraction_le hstep hD hlow hhigh
  have hwidth : (2 ^ 52 * 2 ^ (e + k) : ℚ) ≤ n / (2 ^ k * d : ℕ) * 2 ^ (e + k) := by
    gcongr
    rw [le_div_iff₀ (by exact_mod_cast hD)]
    have hfull' : 2 ^ 52 * (2 ^ k * d) ≤ n := by
      rw [← Nat.mul_assoc, ← Nat.pow_add]
      exact hfull
    exact_mod_cast hfull'
  rw [dif_neg (by omega)] at hx
  rw [hq]
  by_cases hlt : r < 2 ^ 53
  · rw [if_pos hlt, stored_finite _ (by omega) hlt hmin (by omega)] at hx
    exact ⟨r, e + k, r, e + k, ⟨_, hx⟩, by omega, hlt, hmin, by omega, rfl, hwidth, hclose, fun ht => heven (htie ht)⟩
  · -- The carry leaves an even mantissa.
    obtain rfl : r = 2 ^ 53 := by omega
    rw [if_neg hlt, stored_finite _ (by omega) (by omega) (by omega) (by omega)] at hx
    refine ⟨2 ^ 52, e + k + 1, 2 ^ 53, e + k, ⟨_, hx⟩, by omega, by omega, by omega, by omega, ?_, hwidth, hclose,
      fun _ => by decide⟩
    rw [zpow_add_one₀ two_ne_zero]
    push_cast
    ring

/-- The float has its full width and is this number, exactly. The exponents are those of numbers from one to
`2 ^ 75`. -/
def IsExactly (u : UnpackedFloat) (c : Nat) : Bool :=
  match u with
  | .finite .positive m e _ =>
    2 ^ 52 ≤ m && m < 2 ^ 53 && -52 ≤ e && e ≤ 22 && m * 2 ^ (e + 52).toNat == 2 ^ 52 * c
  | _ => false

theorem exists_of_isExactly {u : UnpackedFloat} {c : Nat} (h : IsExactly u c) : ∃ m e hm,
    u = .finite .positive m e hm ∧ 2 ^ 52 ≤ m ∧ m < 2 ^ 53 ∧ -52 ≤ e ∧ e ≤ 22 ∧ (m * 2 ^ e : ℚ) = c := by
  unfold IsExactly at h
  split at h
  · rename_i m e hm
    simp only [Bool.and_eq_true, decide_eq_true_eq, beq_iff_eq] at h
    obtain ⟨⟨⟨⟨hlow, hhigh⟩, he⟩, he'⟩, hc⟩ := h
    refine ⟨m, e, hm, rfl, hlow, hhigh, he, he', ?_⟩
    have hc' : (m * 2 ^ (e + 52).toNat : ℚ) = 2 ^ 52 * c := by exact_mod_cast hc
    rw [← zpow_natCast, Int.toNat_of_nonneg (by omega), zpow_add₀ two_ne_zero, ← mul_assoc] at hc'
    norm_num at hc' ⊢
    linarith
  · cases h

theorem isExactly_powerOfTen {k : Nat} (hk : k ≤ 22) : IsExactly (Decimal.powerOfTen k).toModel.unpack (10 ^ k) := by
  have hall : ∀ k < 23, IsExactly (Decimal.powerOfTen k).toModel.unpack (10 ^ k) := by
    decide +kernel
  exact hall k (by omega)

theorem isExactly_toFloat {c : Nat} (hc : 0 < c) (hlt : c < 2 ^ 53) :
    IsExactly c.toUInt64.toFloat.toModel.unpack c := by
  have hto : c.toUInt64.toNat = c := Nat.mod_eq_of_lt (by omega)
  have hlog : c.log2 < 53 := (Nat.log2_lt (by omega)).2 hlt
  have hs : (0 - Format.binary64.targetExponent (totalExponent c 0)).toNat = 52 - c.log2 := by
    rw [targetExponent_binary64, totalExponent]
    omega
  have hround : UnpackedFloat.normalize .binary64 c 0 .positive =
      roundWithAccuracy .binary64 .positive (c <<< (52 - c.log2)) (0 - (52 - c.log2 : Nat)) .exact := by
    rw [UnpackedFloat.normalize, Int.compare_eq_gt.2 (by omega), ← hs]
    rfl
  have hunpack : c.toUInt64.toFloat.toModel.unpack = stored (UnpackedFloat.normalize .binary64 c 0 .positive) := by
    conv_rhs => rw [← hto]
    rfl
  have hM : c <<< (52 - c.log2) = c * 2 ^ (52 - c.log2) := Nat.shiftLeft_eq c _
  have hpow : 2 ^ c.log2 * 2 ^ (52 - c.log2) = 2 ^ 52 := by
    rw [← Nat.pow_add, Nat.add_sub_cancel' (by omega)]
  have hlow : 2 ^ 52 ≤ c <<< (52 - c.log2) := by
    rw [hM, ← hpow]
    exact Nat.mul_le_mul_right _ (Nat.log2_self_le (by omega))
  have hhigh : c <<< (52 - c.log2) < 2 ^ 53 := by
    rw [hM, Nat.pow_succ', ← hpow, ← Nat.mul_assoc, ← Nat.pow_succ']
    exact Nat.mul_lt_mul_of_pos_right Nat.lt_log2_self (Nat.two_pow_pos _)
  have hlogM : (c <<< (52 - c.log2)).log2 = 52 := (Nat.log2_eq_iff (by omega)).2 ⟨hlow, hhigh⟩
  -- Shifted to its full width the coefficient needs no rounding.
  have hk : 0 = (Format.binary64.targetExponent (totalExponent (c <<< (52 - c.log2)) (0 - (52 - c.log2 : Nat))) -
      (0 - (52 - c.log2 : Nat))).toNat := by
    rw [targetExponent_binary64, totalExponent, hlogM]
    omega
  rw [hunpack, hround, roundWithAccuracy_binary64 hk .positive .exact (r := c <<< (52 - c.log2)) rfl,
    dif_neg (by omega), if_pos hhigh, stored_finite _ hlow hhigh (by omega) (by omega)]
  have hexp : ((0 - (52 - c.log2 : Nat) : Int) + (0 : Nat) + 52).toNat = c.log2 := by omega
  have hvalue : c <<< (52 - c.log2) * 2 ^ c.log2 = 2 ^ 52 * c := by
    rw [hM, ← hpow]
    ring
  simp only [IsExactly, hexp, hvalue, Bool.and_eq_true, decide_eq_true_eq, beq_iff_eq]
  exact ⟨⟨⟨⟨hlow, hhigh⟩, by omega⟩, by omega⟩, trivial⟩

section Scaled
variable {x y : Float} {c p : Nat}

theorem unpack_mul (x y : Float) :
    (x * y).toModel.unpack = stored (UnpackedFloat.mul .binary64 x.toModel.unpack y.toModel.unpack) := rfl

theorem rounds_mul (hx : IsExactly x.toModel.unpack c) (hy : IsExactly y.toModel.unpack p) :
    ∃ m e r j, Rounds (x * y) .positive (c * p) m e r j := by
  obtain ⟨m₁, e₁, h₁, hx, hl₁, hh₁, he₁, he₁', hc⟩ := exists_of_isExactly hx
  obtain ⟨m₂, e₂, h₂, hy, hl₂, hh₂, he₂, he₂', hp⟩ := exists_of_isExactly hy
  have hprod : (x * y).toModel.unpack =
      stored (roundWithAccuracy .binary64 .positive (m₁ * m₂) (e₁ + e₂) .exact) := by
    rw [unpack_mul, hx, hy]
    rfl
  have hlow : 2 ^ 104 ≤ m₁ * m₂ := by
    calc 2 ^ 104 = 2 ^ 52 * 2 ^ 52 := by decide
      _ ≤ m₁ * m₂ := Nat.mul_le_mul hl₁ hl₂
  have hhigh : m₁ * m₂ < 2 ^ 106 := by
    calc m₁ * m₂ < 2 ^ 53 * 2 ^ 53 := Nat.mul_lt_mul'' hh₁ hh₂
      _ = 2 ^ 106 := by decide
  have hlog : 104 ≤ (m₁ * m₂).log2 := (Nat.le_log2 (by omega)).2 hlow
  have hlog' : (m₁ * m₂).log2 < 106 := (Nat.log2_lt (by omega)).2 hhigh
  have hk : (m₁ * m₂).log2 - 52 =
      (Format.binary64.targetExponent (totalExponent (m₁ * m₂) (e₁ + e₂)) - (e₁ + e₂)).toNat := by
    rw [targetExponent_binary64, totalExponent]
    omega
  have hfull : 2 ^ (52 + ((m₁ * m₂).log2 - 52)) * 1 ≤ m₁ * m₂ := by
    rw [Nat.add_sub_cancel' (by omega), Nat.mul_one]
    exact Nat.log2_self_le (by omega)
  have hvalue : ((m₁ * m₂ : ℕ) / (1 : ℕ) * 2 ^ (e₁ + e₂) : ℚ) = c * p := by
    rw [← hc, ← hp, zpow_add₀ two_ne_zero]
    push_cast
    ring
  rw [← hvalue]
  exact exists_rounds Nat.one_pos (Represents.ofNat _) hk hfull (by omega) hprod

theorem rounds_div (hx : IsExactly x.toModel.unpack c) (hy : IsExactly y.toModel.unpack p) :
    ∃ m e r j, Rounds (x / y) .positive (c / p) m e r j := by
  obtain ⟨m₁, e₁, h₁, hx, hl₁, hh₁, he₁, he₁', hc⟩ := exists_of_isExactly hx
  obtain ⟨m₂, e₂, h₂, hy, hl₂, hh₂, he₂, he₂', hp⟩ := exists_of_isExactly hy
  obtain ⟨e, s, he, hs, hdiv⟩ := exists_div_eq .positive .positive e₁ e₂ h₁ h₂
  have hquot : (x / y).toModel.unpack = stored (roundWithAccuracy .binary64 .positive (2 ^ s * m₁ / m₂) e
      (accuracyOfFraction (2 ^ s * m₁ % m₂) m₂)) := by
    rw [unpack_div, hx, hy, hdiv]
    rfl
  have hlog₁ : m₁.log2 = 52 := (Nat.log2_eq_iff (by omega)).2 ⟨hl₁, hh₁⟩
  have hlog₂ : m₂.log2 = 52 := (Nat.log2_eq_iff (by omega)).2 ⟨hl₂, hh₂⟩
  have hmin : -1074 < e := by
    rw [he, quotientExponent, targetExponent_binary64, totalExponent, totalExponent, hlog₁, hlog₂]
    omega
  let k := (Format.binary64.targetExponent (totalExponent (2 ^ s * m₁ / m₂) e) - e).toNat
  have hfull : 2 ^ (52 + k) * m₂ ≤ 2 ^ s * m₁ := le_quotient h₁ he hs rfl (by omega)
  have hbound : e + k ≤ 970 := by
    have hpow : 2 ^ (52 + k + 52) < 2 ^ (s + 53) := by
      calc 2 ^ (52 + k + 52) = 2 ^ (52 + k) * 2 ^ 52 := Nat.pow_add ..
        _ ≤ 2 ^ (52 + k) * m₂ := Nat.mul_le_mul_left _ hl₂
        _ ≤ 2 ^ s * m₁ := hfull
        _ < 2 ^ s * 2 ^ 53 := Nat.mul_lt_mul_of_pos_left hh₁ (Nat.two_pow_pos s)
        _ = 2 ^ (s + 53) := (Nat.pow_add ..).symm
    have hks := (Nat.pow_lt_pow_iff_right Nat.one_lt_two).1 hpow
    omega
  have hvalue : ((2 ^ s * m₁ : ℕ) / (m₂ : ℕ) * 2 ^ e : ℚ) = c / p := by
    have hm₂ : (m₂ : ℚ) ≠ 0 := by exact_mod_cast h₂.ne'
    have hes : e = e₁ - e₂ - s := by omega
    rw [← hc, ← hp, hes, zpow_sub₀ two_ne_zero, zpow_sub₀ two_ne_zero, zpow_natCast]
    push_cast
    field_simp
  rw [← hvalue]
  exact exists_rounds h₂ (Represents.ofFraction _ h₂) rfl hfull hbound hquot

end Scaled

theorem isNearest_self {x : Float} (h : x.isFinite) : IsNearest x (rational x) := by
  refine ⟨h, fun y _ => ?_⟩
  rw [sub_self, abs_zero]
  by_cases hy : rational y = rational x
  · exact .inr ⟨by rw [hy, sub_self, abs_zero], .inl hy⟩
  · exact .inl (abs_pos.2 (sub_ne_zero.2 hy))

theorem isNearest_zero {x : Float} {sign : Sign} (h : x.toModel.unpack = .zero sign) : IsNearest x 0 := by
  have hx : rational x = 0 := by
    rw [rational, h]
  rw [← hx]
  exact isNearest_self (by rw [isFinite_eq, h]; rfl)

namespace Decimal

/-- A float that is a zero for a zero, and the rounded number otherwise. -/
def IsRounded (x : Float) (c : Nat) (e : Int) : Prop :=
  (c = 0 ∧ ∃ sign, x.toModel.unpack = .zero sign) ∨ ∃ m e' r j, Rounds x .positive (c * 10 ^ e) m e' r j

section Size
variable {c : Nat} {e : Int}

theorem unpack_toFloat_zero : (0 : Nat).toUInt64.toFloat.toModel.unpack = .zero .positive := rfl

theorem exists_size?_of_neg (hc : c < 2 ^ 53) (he : e.natAbs ≤ 22) (hneg : e < 0) :
    ∃ x, size? ⟨c, e⟩ = some x ∧ IsRounded x c e := by
  have hpower := isExactly_powerOfTen he
  refine ⟨c.toUInt64.toFloat / powerOfTen e.natAbs, ?_, ?_⟩
  · rw [size?, if_pos hneg, divide, if_pos (by simp only; omega)]
  · obtain rfl | hpos := Nat.eq_zero_or_pos c
    · obtain ⟨m, e', hm, hp, -⟩ := exists_of_isExactly hpower
      refine .inl ⟨rfl, .positive, ?_⟩
      rw [unpack_div, unpack_toFloat_zero, hp]
      exact stored_zero _
    · have hvalue : (c * 10 ^ e : ℚ) = c / (10 ^ e.natAbs : ℕ) := by
        have hen : e = -(e.natAbs : ℤ) := by omega
        rw [hen, zpow_neg, zpow_natCast, Int.natAbs_neg, Int.natAbs_natCast]
        push_cast
        rfl
      rw [IsRounded, hvalue]
      exact .inr (rounds_div (isExactly_toFloat hpos hc) hpower)

theorem exists_size?_of_nonneg (hc : c < 2 ^ 53) (he : e.natAbs ≤ 22) (hn : ¬ e < 0) :
    ∃ x, size? ⟨c, e⟩ = some x ∧ IsRounded x c e := by
  obtain rfl | hpos := Nat.eq_zero_or_pos c
  · refine ⟨(0 : Nat).toUInt64.toFloat, ?_, .inl ⟨rfl, .positive, unpack_toFloat_zero⟩⟩
    rw [size?, if_neg hn, if_pos (beq_zero_iff.2 ⟨_, unpack_toFloat_zero⟩)]
  · have hexact := isExactly_toFloat hpos hc
    obtain ⟨m, e', r, j, hr⟩ := rounds_mul hexact (isExactly_powerOfTen he)
    have hne : ¬ (c.toUInt64.toFloat == 0.0) = true := by
      rw [beq_zero_iff]
      intro h
      obtain ⟨sign, hs⟩ := h
      obtain ⟨m, e, hm, hx, -⟩ := exists_of_isExactly hexact
      rw [hx] at hs
      cases hs
    have hen : e.toNat = e.natAbs := by omega
    have hvalue : (c * 10 ^ e : ℚ) = c * (10 ^ e.natAbs : ℕ) := by
      have hen' : e = (e.natAbs : ℤ) := by omega
      rw [hen', zpow_natCast, Int.natAbs_natCast]
      push_cast
      rfl
    refine ⟨c.toUInt64.toFloat * powerOfTen e.natAbs, ?_, .inr ⟨m, e', r, j, hvalue ▸ hr⟩⟩
    have hfinite : (c.toUInt64.toFloat * powerOfTen e.natAbs).isFinite := hr.isNearest.1
    rw [size?, if_neg hn, if_neg hne, if_neg (by simp only; omega), hen, if_pos hfinite]

/-- A coefficient and a power of ten that are floats themselves are multiplied or divided, so that the number is
rounded once. -/
theorem exists_size? (hc : c < 2 ^ 53) (he : e.natAbs ≤ 22) : ∃ x, size? ⟨c, e⟩ = some x ∧ IsRounded x c e := by
  by_cases hneg : e < 0
  · exact exists_size?_of_neg hc he hneg
  · exact exists_size?_of_nonneg hc he hneg

end Size

theorem le_foldl_digits (ds : List Nat) (n : Nat) : n ≤ ds.foldl (fun n d => 10 * n + d) n := by
  induction ds generalizing n with
  | nil => exact Nat.le_refl n
  | cons d ds ih => exact Nat.le_trans (by omega) (ih (10 * n + d))

theorem append_eq (n : Nat) (ds : List Nat) (h : ds.foldl (fun n d => 10 * n + d) n < 2 ^ 64) :
    append n ds = (ds.foldl (fun n d => 10 * n + d) n, []) := by
  induction ds generalizing n with
  | nil => rfl
  | cons d ds ih =>
    have hd : 10 * n + d < 1 <<< 64 := Nat.lt_of_le_of_lt (le_foldl_digits ds (10 * n + d)) h
    rw [append, if_pos hd, ih _ h]
    rfl

end Decimal

namespace Numeral

def coefficient (n : Numeral) : Nat := ofDecimalDigits (n.whole ++ n.places)

theorem decimal_eq {n : Numeral} (h : n.coefficient < 2 ^ 53) :
    n.decimal = ⟨n.coefficient, n.exponent - n.places.length⟩ := by
  have hc : n.coefficient = (n.places.map (·.val)).foldl (fun n d => 10 * n + d)
      ((n.whole.map (·.val)).foldl (fun n d => 10 * n + d) 0) := by
    rw [coefficient, ofDecimalDigits, List.foldl_append, List.foldl_map, List.foldl_map]
  have hle := Decimal.le_foldl_digits (n.places.map (·.val))
    ((n.whole.map (·.val)).foldl (fun n d => 10 * n + d) 0)
  have hwhole := Decimal.append_eq 0 (n.whole.map (·.val)) (by omega)
  have hplaces := Decimal.append_eq ((n.whole.map (·.val)).foldl (fun n d => 10 * n + d) 0)
    (n.places.map (·.val)) (by omega)
  rw [decimal, Decimal.ofDigits, hwhole]
  simp only [hplaces, ← hc, List.length_nil, List.length_map]
  congr 1
  omega

theorem exists_isNearest {n : Numeral} (hc : n.coefficient < 2 ^ 53)
    (he : (n.exponent - n.places.length).natAbs ≤ 22) : ∃ x, n.double? = some x ∧ IsNearest x n.value := by
  obtain ⟨x, hx, hrounded⟩ := Decimal.exists_size? hc he
  have hd : n.double? = some (if n.negative then -x else x) := by
    rw [double?, decimal_eq hc, Decimal.toFloat?, hx]
    rfl
  refine ⟨_, hd, ?_⟩
  have hvalue : n.value = signFactor (if n.negative then .negative else .positive) *
      (n.coefficient * 10 ^ (n.exponent - n.places.length)) := by
    rw [value, coefficient, mul_assoc]
    cases n.negative <;> rfl
  obtain ⟨hzero, sign, hu⟩ | ⟨m, e, r, j, hr⟩ := hrounded
  · have hq : n.value = 0 := by
      rw [hvalue, hzero]
      simp
    rw [hq]
    cases n.negative with
    | true =>
      have hneg : (-x).toModel.unpack = stored (UnpackedFloat.neg x.toModel.unpack) := rfl
      rw [hu] at hneg
      exact isNearest_zero (hneg.trans (stored_zero _))
    | false => exact isNearest_zero hu
  · rw [hvalue]
    cases n.negative with
    | true => exact hr.neg.isNearest
    | false => exact hr.isNearest

end Numeral
end CodecBench
