import CodecBench.Proofs.Standing
import CodecBench.Proofs.Underflow
/-!
When ratios and sums of times come out as infinite. A fraction is rounded to a float of full width, which is
infinite exactly if the fraction reaches half a step above the greatest float (`isFinite_stored_round_iff`,
`limit_le_iff`). So a ratio is infinite if the time is that much greater than the baseline's
(`isFinite_relativeTo_iff`). A sum stays infinite once it is, and a mean is infinite only if its sum is
(`isFinite_ratio_of_meanOf?`).
-/

namespace CodecBench
open Float.Model Float.Model.UnpackedFloat

theorem isFinite_unpack_iff (b : BitVec Format.binary64.numBits) :
    (UnpackedFloat.unpack .binary64 b).isFinite ↔ unpackExponent b ≠ -1#_ := by
  unfold UnpackedFloat.unpack
  simp only
  by_cases h : unpackExponent b = -1#_
  · rw [if_pos h]
    refine iff_of_false ?_ (fun hn => hn h)
    split <;> simp [UnpackedFloat.isFinite]
  · rw [if_neg h]
    refine iff_of_true ?_ h
    split
    · split <;> rfl
    · rfl

theorem ofNat_exponent_ne {x : Nat} (h : x < 2047) :
    BitVec.ofNat Format.binary64.exponentBits x ≠ -1#(Format.binary64.exponentBits) := by
  have hexp := two_pow_exponentBits_binary64
  have hones : (-1#(Format.binary64.exponentBits)).toNat = 2047 := by decide
  intro heq
  have hx := (congrArg BitVec.toNat heq).trans hones
  rw [BitVec.toNat_ofNat, Nat.mod_eq_of_lt (by omega)] at hx
  omega

theorem isFinite_stored_finite_iff {m : Nat} {e : Int} (sign : Sign) (hm : 0 < m) :
    (stored (.finite sign m e hm)).isFinite ↔ e ≤ 971 := by
  have hwidth := mantissaBitsWithoutImplicit_binary64
  have hexp := two_pow_exponentBits_binary64
  have hbias := exponentBias_binary64
  rw [stored, isFinite_unpack_iff]
  unfold UnpackedFloat.pack
  simp only [hbias]
  split
  · rw [packedInfinity, unpackExponent_packComponents]
    exact iff_of_false (fun h => h rfl) (by omega)
  · refine iff_of_true ?_ (by omega)
    split
    · rw [unpackExponent_packComponents]
      exact ofNat_exponent_ne (by omega)
    · rw [unpackExponent_packComponents]
      decide

theorem isFinite_stored_round_iff {m : Nat} {e : Int} {k : Nat}
    (hk : k = (Format.binary64.targetExponent (totalExponent m e) - e).toNat) (sign : Sign) (acc : Accuracy) {r : Nat}
    (hr : r = (ExtendedMantissa.ofMantissaAndAccuracy m acc >>> k).roundedMantissa) :
    (stored (roundWithAccuracy .binary64 sign m e acc)).isFinite ↔
      r = 0 ∨ e + k < 971 ∨ e + k = 971 ∧ r < 2 ^ 53 := by
  rw [roundWithAccuracy_binary64 hk sign acc hr]
  split
  · rename_i h0
    rw [stored_zero]
    exact iff_of_true rfl (.inl h0)
  · split
    · rw [isFinite_stored_finite_iff]
      omega
    · rw [isFinite_stored_finite_iff]
      omega

theorem limit_le_iff {n d : Nat} {e : Int} (hn : n < 2 ^ 53 * d) (hfull : 971 ≤ e → 2 ^ 52 * d ≤ n) :
    2 ^ (970 - e).toNat * ((2 ^ 54 - 1) * d) ≤ 2 ^ (e - 970).toNat * n ↔
      971 < e ∨ e = 971 ∧ (2 ^ 54 - 1) * d ≤ 2 * n := by
  obtain hlt | rfl | hgt := Int.lt_trichotomy e 971
  · have hexp : (e - 970).toNat = 0 := by omega
    have hle : 1 * ((2 ^ 54 - 1) * d) ≤ 2 ^ (970 - e).toNat * ((2 ^ 54 - 1) * d) :=
      Nat.mul_le_mul_right _ (Nat.two_pow_pos _)
    rw [hexp]
    omega
  · rw [show (970 - 971 : Int).toNat = 0 from rfl, show (971 - 970 : Int).toNat = 1 from rfl]
    omega
  · have hexp : (970 - e).toNat = 0 := by omega
    have hle : 2 ^ 2 * n ≤ 2 ^ (e - 970).toNat * n :=
      Nat.mul_le_mul_right _ (Nat.pow_le_pow_right Nat.two_pos (by omega))
    rw [hexp]
    omega

/-- Half a step above the greatest float. -/
def rangeLimit : Nat := (2 ^ 54 - 1) * 2 ^ 970

theorem rangeLimit_pos : 0 < rangeLimit := by decide +kernel

theorem rangeLimit_mul (x y : Nat) : rangeLimit * (2 ^ x * y) = 2 ^ (970 + x) * ((2 ^ 54 - 1) * y) := by
  have hpow : ∀ z : Nat, (2 ^ 54 - 1) * 2 ^ z * (2 ^ x * y) = 2 ^ (z + x) * ((2 ^ 54 - 1) * y) := by
    intro z
    rw [Nat.pow_add]
    ring
  exact hpow 970

/-- A time that is too great beside another one: their quotient is beyond all floats. -/
def Overflows (t b : Float) : Prop := rangeLimit * quanta b ≤ quanta t

instance (t b : Float) : Decidable (Overflows t b) := inferInstanceAs (Decidable (_ ≤ _))

theorem isFinite_div_finite_iff {m₁ m₂ : Nat} {e₁ e₂ : Int} (sign₁ sign₂ : Sign) (h₁ : 0 < m₁) (h₂ : 0 < m₂)
    (he₁ : -1074 ≤ e₁) (he₂ : -1074 ≤ e₂) :
    (stored (UnpackedFloat.div .binary64 (.finite sign₁ m₁ e₁ h₁) (.finite sign₂ m₂ e₂ h₂))).isFinite ↔
      ¬ rangeLimit * (2 ^ (e₂ + 1074).toNat * m₂) ≤ 2 ^ (e₁ + 1074).toNat * m₁ := by
  obtain ⟨e, s, he, hs, hq⟩ := exists_div_eq sign₁ sign₂ e₁ e₂ h₁ h₂
  obtain ⟨k, hk⟩ : ∃ k, k = (Format.binary64.targetExponent (totalExponent (2 ^ s * m₁ / m₂) e) - e).toNat :=
    ⟨_, rfl⟩
  have hem := (Represents.ofFraction (2 ^ s * m₁) h₂).shiftRight h₂ k
  have hD : 0 < 2 ^ k * m₂ := Nat.mul_pos (Nat.two_pow_pos k) h₂
  have hn : 2 ^ s * m₁ < 2 ^ 53 * (2 ^ k * m₂) := by
    have hlt := shifted_mantissa_lt hk (accuracyOfFraction (2 ^ s * m₁ % m₂) m₂)
    rw [hem.mantissa] at hlt
    exact (Nat.div_lt_iff_lt_mul hD).1 hlt
  have hfull : -1074 < e + k → 2 ^ 52 * (2 ^ k * m₂) ≤ 2 ^ s * m₁ := by
    rw [← Nat.mul_assoc, ← Nat.pow_add]
    exact le_quotient h₁ he hs hk
  have hzero := hem.roundedMantissa_eq_zero_iff hD
  have hcarry := hem.two_mul_le_roundedMantissa_iff (b := 2 ^ 52 - 1) hD
  have hlimit : rangeLimit * (2 ^ (e₂ + 1074).toNat * m₂) ≤ 2 ^ (e₁ + 1074).toNat * m₁ ↔
      971 < e + k ∨ e + k = 971 ∧ (2 ^ 54 - 1) * (2 ^ k * m₂) ≤ 2 * (2 ^ s * m₁) := by
    rw [← limit_le_iff hn (fun h => hfull (by omega)), rangeLimit_mul,
      two_pow_mul_le_iff (c := (970 - (e + k)).toNat + k) (d := (e + k - 970).toNat + s) (by omega),
      Nat.pow_add, Nat.pow_add, Nat.mul_assoc, Nat.mul_assoc, Nat.mul_left_comm (2 ^ k)]
  rw [hq, isFinite_stored_round_iff hk _ _ rfl, hlimit]
  omega

theorem isFinite_div_iff {t b : Float} (ht : t.isFinite) (hb : b.isFinite) (hb0 : b != 0.0) :
    (t / b).isFinite ↔ ¬ Overflows t b := by
  rw [isFinite_eq, unpack_div, Overflows, quanta, quanta]
  obtain ⟨sign₂, hzero⟩ | ⟨sign₂, m₂, e₂, h₂, hu₂, he₂⟩ := finite_cases hb
  · exact absurd (beq_zero_iff.2 ⟨sign₂, hzero⟩) (by simpa [bne] using hb0)
  · obtain ⟨sign₁, hu₁⟩ | ⟨sign₁, m₁, e₁, h₁, hu₁, he₁⟩ := finite_cases ht
    · have hz : UnpackedFloat.div .binary64 (.zero sign₁) (.finite sign₂ m₂ e₂ h₂) = .zero (sign₁ / sign₂) := rfl
      have hpos : 0 < 2 ^ (e₂ + 1074).toNat * m₂ := Nat.mul_pos (Nat.two_pow_pos _) h₂
      rw [hu₁, hu₂, hz, stored_zero]
      exact iff_of_true rfl (Nat.not_le_of_gt (Nat.mul_pos rangeLimit_pos hpos))
    · rw [hu₁, hu₂]
      exact isFinite_div_finite_iff sign₁ sign₂ h₁ h₂ he₁ he₂

theorem isFinite_relativeTo_iff {base t : Float} (hb : isDuration base) (ht : isDuration t) :
    (relativeTo base t).isFinite ↔ base == 0.0 ∨ ¬ Overflows t base := by
  unfold relativeTo
  cases h0 : base == 0.0 with
  | true =>
    have hne : ¬ (base != 0.0) := by simp [bne, h0]
    rw [if_neg hne]
    exact iff_of_true isFinite_zero (.inl rfl)
  | false =>
    have hne : base != 0.0 := by simp [bne, h0]
    rw [if_pos hne, isFinite_div_iff (isFinite_of_isDuration ht) (isFinite_of_isDuration hb) hne]
    simp

theorem stored_infinity (sign : Sign) : stored (.infinity sign) = .infinity sign := by
  cases sign <;> rfl

theorem isFinite_of_stored {u : UnpackedFloat} (h : (stored u).isFinite) : u.isFinite := by
  cases u with
  | infinity sign =>
    rw [stored_infinity] at h
    exact h
  | notANumber => exact absurd h (by decide)
  | zero sign => rfl
  | finite sign m e hm => rfl

theorem isFinite_of_unpacked_add {u v : UnpackedFloat} (h : (UnpackedFloat.add .binary64 u v).isFinite) :
    u.isFinite ∧ v.isFinite := by
  cases u with
  | notANumber => cases h
  | infinity sign =>
    cases v with
    | infinity sign' => cases sign <;> cases sign' <;> cases h
    | _ => cases h
  | _ =>
    cases v with
    | notANumber => cases h
    | infinity sign => cases h
    | _ => exact ⟨rfl, rfl⟩

theorem isFinite_of_unpacked_div {u v : UnpackedFloat} (h : (UnpackedFloat.div .binary64 u v).isFinite) :
    u.isFinite := by
  cases u with
  | notANumber => cases h
  | infinity sign => cases v <;> cases h
  | zero sign => rfl
  | finite sign m e hm => rfl

theorem isFinite_of_add {x y : Float} (h : (x + y).isFinite) : x.isFinite ∧ y.isFinite := by
  rw [isFinite_eq, unpack_add] at h
  exact isFinite_of_unpacked_add (isFinite_of_stored h)

theorem isFinite_of_div {x y : Float} (h : (x / y).isFinite) : x.isFinite := by
  rw [isFinite_eq, unpack_div] at h
  exact isFinite_of_unpacked_div (isFinite_of_stored h)

theorem isFinite_of_total {xs : List Float} (h : (total xs).isFinite) : ∀ x ∈ xs, x.isFinite := by
  induction xs using List.reverseRecOn with
  | nil => simp
  | append_singleton xs x ih =>
    rw [total, List.foldl_concat] at h
    obtain ⟨hxs, hx⟩ := isFinite_of_add h
    intro y hy
    rw [List.mem_append, List.mem_singleton] at hy
    obtain hy | rfl := hy
    · exact ih hxs y hy
    · exact hx

/-- A number of at least one whose mantissa has its full width, or infinity. -/
def IsLarge : UnpackedFloat → Prop
  | .infinity _ => True
  | .finite _ m e _ => 2 ^ 52 ≤ m ∧ m < 2 ^ 53 ∧ -52 ≤ e
  | _ => False

theorem isLarge_unpack {b : BitVec Format.binary64.numBits} (hn : unpackExponent b ≠ -1#_)
    (h : 1023 ≤ (unpackExponent b).toNat) : IsLarge (UnpackedFloat.unpack .binary64 b) := by
  have hbias := exponentBias_binary64
  have hwidth := mantissaBitsWithoutImplicit_binary64
  have h0 : unpackExponent b ≠ 0#_ := by
    intro h0
    rw [h0] at h
    exact absurd h (by decide)
  unfold UnpackedFloat.unpack
  simp only [if_neg hn, if_neg h0, hbias]
  have hm : (1#1 ++ unpackMantissa b).toNat = 2 ^ 52 + (unpackMantissa b).toNat := by
    rw [BitVec.toNat_append, ← Nat.shiftLeft_add_eq_or_of_lt (unpackMantissa b).isLt]
    rfl
  have hlt : (unpackMantissa b).toNat < 2 ^ 52 := (unpackMantissa b).isLt
  refine ⟨?_, ?_, ?_⟩
  · omega
  · omega
  · omega

theorem isLarge_stored {u : UnpackedFloat} (h : IsLarge u) : IsLarge (stored u) := by
  cases u with
  | infinity sign =>
    rw [stored_infinity]
    trivial
  | finite sign m e hm =>
    obtain ⟨hlow, hhigh, he⟩ := h
    have hbias := exponentBias_binary64
    have hwidth := mantissaBitsWithoutImplicit_binary64
    have hexp := two_pow_exponentBits_binary64
    have hlog : m.log2 = 52 := (Nat.log2_eq_iff (by omega)).2 ⟨hlow, hhigh⟩
    rw [stored]
    unfold UnpackedFloat.pack
    simp only [hbias]
    split
    · have hinf := stored_infinity sign
      rw [stored, UnpackedFloat.pack] at hinf
      rw [hinf]
      trivial
    · rw [if_pos (by rw [hlog]; decide)]
      refine isLarge_unpack ?_ ?_
      · rw [unpackExponent_packComponents]
        exact ofNat_exponent_ne (by omega)
      · rw [unpackExponent_packComponents, BitVec.toNat_ofNat, Nat.mod_eq_of_lt (by omega)]
        omega
  | zero sign => exact h.elim
  | notANumber => exact h.elim

theorem isLarge_round (sign : Sign) {m j : Nat} {e : Int} (hj : 52 ≤ j) (hm : 2 ^ j ≤ m) (he : 0 ≤ j + e) :
    IsLarge (roundWithAccuracy .binary64 sign m e .exact) := by
  have hm0 : m ≠ 0 := Nat.ne_of_gt (Nat.lt_of_lt_of_le (Nat.two_pow_pos j) hm)
  have hlog : j ≤ m.log2 := (Nat.le_log2 hm0).2 hm
  have hk : m.log2 - 52 = (Format.binary64.targetExponent (totalExponent m e) - e).toNat := by
    rw [targetExponent_binary64, totalExponent]
    omega
  have hlt := shifted_mantissa_lt hk .exact
  have hge : 2 ^ 52 ≤ (ExtendedMantissa.ofMantissaAndAccuracy m .exact >>> (m.log2 - 52)).mantissa := by
    rw [mantissa_shiftRight, mantissa_ofMantissaAndAccuracy, Nat.le_div_iff_mul_le (Nat.two_pow_pos _),
      ← Nat.pow_add, Nat.add_sub_cancel' (by omega)]
    exact Nat.log2_self_le hm0
  have hround := roundedMantissa_cases (ExtendedMantissa.ofMantissaAndAccuracy m .exact >>> (m.log2 - 52))
  rw [roundWithAccuracy_binary64 hk sign .exact rfl, dif_neg (by omega)]
  split
  · exact ⟨by omega, by omega, by omega⟩
  · exact ⟨by omega, by omega, by omega⟩

theorem isLarge_mul_one {u : UnpackedFloat} (h : IsLarge u) :
    IsLarge (UnpackedFloat.mul .binary64 u (.finite .positive (2 ^ 52) (-52) (Nat.two_pow_pos 52))) := by
  cases u with
  | infinity sign => exact h
  | finite sign m e hm =>
    obtain ⟨hlow, -, he⟩ := h
    have hround : UnpackedFloat.mul .binary64 (.finite sign m e hm)
        (.finite .positive (2 ^ 52) (-52) (Nat.two_pow_pos 52)) =
        roundWithAccuracy .binary64 (sign * .positive) (m * 2 ^ 52) (e + -52) .exact := rfl
    rw [hround]
    exact isLarge_round (m := m * 2 ^ 52) (e := e + -52) (j := 104) _ (by omega) (by omega) (by omega)
  | zero sign => exact h.elim
  | notANumber => exact h.elim

theorem isLarge_normalize {n : Nat} (hn : 0 < n) (hlt : n < 2 ^ 53) :
    IsLarge (UnpackedFloat.normalize .binary64 n 0 .positive) := by
  have hlog : n.log2 < 53 := (Nat.log2_lt (by omega)).2 hlt
  have hs : (0 - Format.binary64.targetExponent (totalExponent n 0)).toNat = 52 - n.log2 := by
    rw [targetExponent_binary64, totalExponent]
    omega
  have hround : UnpackedFloat.normalize .binary64 n 0 .positive =
      roundWithAccuracy .binary64 .positive (n <<< (52 - n.log2)) (0 - (52 - n.log2 : Nat)) .exact := by
    rw [UnpackedFloat.normalize, Int.compare_eq_gt.2 (by omega), ← hs]
    rfl
  rw [hround]
  refine isLarge_round .positive (Nat.le_refl 52) ?_ (by omega)
  have hpow : 2 ^ 52 = 2 ^ n.log2 * 2 ^ (52 - n.log2) := by
    rw [← Nat.pow_add, Nat.add_sub_cancel' (by omega)]
  rw [Nat.shiftLeft_eq, hpow]
  exact Nat.mul_le_mul_right _ (Nat.log2_self_le (by omega))

theorem isLarge_ofNat {n : Nat} (hn : 0 < n) : IsLarge (Float.ofNat n).toModel.unpack := by
  rw [show Float.ofNat n = Float.ofScientific n false 0 from rfl]
  by_cases hlt : n < 2 ^ 53
  · have hmul : Float.ofScientific n false 0 =
        n.toUInt64.toFloat * Float.exactlyRepresentablePowersOfTen[0] := by
      rw [Float.ofScientific, dif_pos ⟨hlt, by decide⟩]
      rfl
    rw [hmul]
    refine isLarge_stored (isLarge_mul_one (isLarge_stored ?_))
    have hto : n.toUInt64.toNat = n := Nat.mod_eq_of_lt (by omega)
    have h := isLarge_normalize hn hlt
    rwa [← hto] at h
  · have hsci : Float.ofScientific n false 0 = ⟨Float.Model.ofScientific n 0⟩ := by
      rw [Float.ofScientific, dif_neg fun h => hlt h.1]
      rfl
    rw [hsci]
    refine isLarge_stored ?_
    have hexp : (2 : Int) ^ Format.binary64.exponentBits = 2048 := by decide
    obtain ⟨m, e, hround, hm, he⟩ : ∃ (m : Nat) (e : Int), UnpackedFloat.ofScientific .binary64 n 0 =
        roundWithAccuracy .binary64 (.positive * .positive) m e .exact ∧ 2 ^ 53 ≤ m ∧ e = -53 := by
      refine ⟨n <<< 53 * 10 ^ 0, -53 + 0, ?_, ?_, rfl⟩
      · rw [UnpackedFloat.ofScientific, dif_neg (by omega), if_neg (by omega), if_neg (by omega),
          if_pos (Int.le_refl 0)]
        rfl
      · rw [Nat.shiftLeft_eq]
        omega
    rw [hround]
    exact isLarge_round _ (by omega) hm (by omega)

theorem quanta_lt (t : Float) : quanta t < rangeLimit * 2 ^ 1074 := by
  have hpos : 0 < rangeLimit * 2 ^ 1074 := by decide +kernel
  rw [quanta]
  cases hu : t.toModel.unpack with
  | finite sign m e hm =>
    obtain ⟨hm', -, he⟩ := fits_of_unpack hu
    have hle : ∀ k, (e + 1074).toNat ≤ k → 2 ^ (e + 1074).toNat * m ≤ 2 ^ k * (2 ^ 53 - 1) := fun k hk =>
      Nat.mul_le_mul (Nat.pow_le_pow_right Nat.two_pos hk) (by omega)
    have hgreatest : 2 ^ 2045 * (2 ^ 53 - 1) < rangeLimit * 2 ^ 1074 := by decide +kernel
    exact Nat.lt_of_le_of_lt (hle 2045 (by omega)) hgreatest
  | _ => exact hpos

theorem isFinite_div_infinity {x y : Float} {sign : Sign} (hx : x.isFinite) (hy : y.toModel.unpack = .infinity sign) :
    (x / y).isFinite := by
  rw [isFinite_eq, unpack_div, hy]
  obtain ⟨sign', hz⟩ : ∃ sign', UnpackedFloat.div .binary64 x.toModel.unpack (.infinity sign) = .zero sign' := by
    obtain ⟨sign₁, hx'⟩ | ⟨sign₁, m, e, hm, hx', -⟩ := finite_cases hx
    · exact ⟨sign₁ / sign, by rw [hx']; rfl⟩
    · exact ⟨sign₁ / sign, by rw [hx']; rfl⟩
  rw [hz, stored_zero]
  rfl

theorem isFinite_div_of_isLarge {x y : Float} (hx : x.isFinite) (hy : IsLarge y.toModel.unpack) :
    (x / y).isFinite := by
  cases hu : y.toModel.unpack with
  | infinity sign => exact isFinite_div_infinity hx hu
  | finite sign m e hm =>
    rw [hu] at hy
    obtain ⟨hm', -, he⟩ := hy
    have hy' : y.isFinite := by
      rw [isFinite_eq, hu]
      rfl
    have hy0 : y != 0.0 := by
      rw [bne, Bool.not_eq_true', ← Bool.not_eq_true, beq_zero_iff, hu]
      rintro ⟨sign', h⟩
      cases h
    have hone : 2 ^ 1074 ≤ quanta y := by
      have hle : ∀ k, k ≤ (e + 1074).toNat → 2 ^ k * 2 ^ 52 ≤ 2 ^ (e + 1074).toNat * m := fun k hk =>
        Nat.mul_le_mul (Nat.pow_le_pow_right Nat.two_pos hk) hm'
      have hsplit : 2 ^ 1074 = 2 ^ 1022 * 2 ^ 52 := by decide +kernel
      have hq : quanta y = 2 ^ (e + 1074).toNat * m := by rw [quanta, hu]
      rw [hq, hsplit]
      exact hle 1022 (by omega)
    rw [isFinite_div_iff hx hy' hy0, Overflows, Nat.not_le]
    exact Nat.lt_of_lt_of_le (quanta_lt x) (Nat.mul_le_mul_left rangeLimit hone)
  | zero sign => exact absurd hy (by rw [hu]; exact id)
  | notANumber => exact absurd hy (by rw [hu]; exact id)

/-- A mean is infinite exactly if its sum is, even where the mean itself would be in range. -/
theorem isFinite_ratio_of_meanOf? {xs : List (Float × Float)} {m : Mean} (h : meanOf? xs = some m) :
    m.ratio.isFinite ↔ (total (xs.map (·.2))).isFinite := by
  cases xs with
  | nil => cases h
  | cons x xs =>
    cases h
    exact ⟨isFinite_of_div, fun hf => isFinite_div_of_isLarge hf (isLarge_ofNat (Nat.succ_pos _))⟩

end CodecBench
