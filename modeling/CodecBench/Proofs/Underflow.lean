import CodecBench.Proofs.Rounding
import CodecBench.Ratio
/-!
When a ratio of times comes out as zero. A quotient is rounded to zero exactly if it is at most half of the least
positive float (`div_beq_zero_iff`). So a ratio is zero for a baseline that took no time, and also for a time that
is nothing beside the baseline's (`relativeTo_beq_zero_iff`).
-/

namespace CodecBench
open Float.Model Float.Model.UnpackedFloat

section Quotient
variable {m₁ m₂ : Nat} {e₁ e₂ : Int}

theorem half_le_iff (h₁ : 0 < m₁) (he₁ : -1074 ≤ e₁) (he₂ : -1074 ≤ e₂) {e : Int}
    (he : e = quotientExponent m₁ e₁ m₂ e₂) {s k : Nat} (hs : e₁ - e₂ = e + s)
    (hk : k = (Format.binary64.targetExponent (totalExponent (2 ^ s * m₁ / m₂) e) - e).toNat) :
    2 * (2 ^ s * m₁) ≤ 2 ^ k * m₂ ↔
      2 ^ (1075 + (e₁ + 1074).toNat) * m₁ ≤ 2 ^ (e₂ + 1074).toNat * m₂ := by
  have hmin := le_add_shift hk
  rw [two_pow_mul_le_iff (c := s + (1075 + (e + k)).toNat) (d := k) (by omega)]
  -- The quotient is rounded at the least exponent, or else neither side holds.
  by_cases heq : e + k = -1074
  · have hc : s + (1075 + (e + k)).toNat = s + 1 := by omega
    rw [hc, Nat.pow_succ', Nat.mul_assoc]
  · have hle : 2 ^ k * m₂ ≤ 2 ^ s * m₁ := Nat.le_trans
      (Nat.mul_le_mul_right _ (Nat.pow_le_pow_right Nat.two_pos (by omega))) (le_quotient h₁ he hs hk (by omega))
    have hpos : 0 < 2 ^ s * m₁ := Nat.mul_pos (Nat.two_pow_pos s) h₁
    have hc : 2 * (2 ^ s * m₁) ≤ 2 ^ (s + (1075 + (e + k)).toNat) * m₁ := by
      rw [← Nat.mul_assoc, ← Nat.pow_succ']
      exact Nat.mul_le_mul_right _ (Nat.pow_le_pow_right Nat.two_pos (by omega))
    constructor <;> intro h <;> omega

theorem div_finite_cases (sign₁ sign₂ : Sign) (h₁ : 0 < m₁) (h₂ : 0 < m₂) (he₁ : -1074 ≤ e₁)
    (he₂ : -1074 ≤ e₂) :
    let small := 2 ^ (1075 + (e₁ + 1074).toNat) * m₁ ≤ 2 ^ (e₂ + 1074).toNat * m₂
    let quotient := UnpackedFloat.div .binary64 (.finite sign₁ m₁ e₁ h₁) (.finite sign₂ m₂ e₂ h₂)
    (small ∧ quotient = .zero (sign₁ / sign₂)) ∨
    (¬ small ∧ ∃ m e h, quotient = .finite (sign₁ / sign₂) m e h ∧ m < 2 ^ 53 ∧ -1074 ≤ e) := by
  intro small quotient
  obtain ⟨e, s, he, hs, hq⟩ := exists_div_eq sign₁ sign₂ e₁ e₂ h₁ h₂
  have hz := (((Represents.ofFraction (2 ^ s * m₁) h₂).shiftRight h₂ _).roundedMantissa_eq_zero_iff
    (Nat.mul_pos (Nat.two_pow_pos _) h₂)).trans (half_le_iff h₁ he₁ he₂ he hs rfl)
  have hmin := le_add_shift (m := 2 ^ s * m₁ / m₂) (e := e) rfl
  rw [roundWithAccuracy_binary64 rfl _ _ rfl] at hq
  split at hq
  · rename_i hr
    exact .inl ⟨hz.1 hr, hq⟩
  · rename_i hr
    refine .inr ⟨fun hsmall => hr (hz.2 hsmall), ?_⟩
    split at hq
    · exact ⟨_, _, _, hq, by assumption, hmin⟩
    · exact ⟨_, _, _, hq, by decide, by omega⟩

end Quotient

theorem components_of_unpack_zero {b : BitVec Format.binary64.numBits} {sign : Sign}
    (h : UnpackedFloat.unpack .binary64 b = .zero sign) : unpackExponent b = 0#_ ∧ unpackMantissa b = 0#_ := by
  unfold UnpackedFloat.unpack at h
  simp only at h
  split at h
  · split at h <;> cases h
  · split at h
    · split at h
      · exact ⟨‹_›, ‹_›⟩
      · cases h
    · cases h

theorem stored_finite_ne_zero {m : Nat} {e : Int} (sign : Sign) (hm : 0 < m) (hlt : m < 2 ^ 53)
    (he : -1074 ≤ e) (sign' : Sign) :
    stored (.finite sign m e hm) ≠ .zero sign' := by
  intro h
  obtain ⟨hexp, hman⟩ := components_of_unpack_zero h
  have hbits : Format.binary64.mantissaBits = 53 := rfl
  simp only [UnpackedFloat.pack, hbits, exponentBias_binary64] at hexp hman
  split at hexp
  · rw [packedInfinity, unpackExponent_packComponents] at hexp
    exact absurd hexp (by decide)
  · rename_i hbig
    rw [if_neg hbig] at hman
    split at hexp
    · rw [unpackExponent_packComponents] at hexp
      have hexp' := congrArg BitVec.toNat hexp
      rw [BitVec.toNat_ofNat, BitVec.toNat_ofNat] at hexp'
      omega
    · rename_i hlog
      have hm52 : m < 2 ^ 52 := by
        have hlt' := (Nat.log2_lt (Nat.ne_of_gt hm)).2 hlt
        exact (Nat.log2_lt (Nat.ne_of_gt hm)).1 (by omega)
      rw [if_neg hlog, unpackMantissa_packComponents] at hman
      have hman' := congrArg BitVec.toNat hman
      rw [BitVec.toNat_ofNat, BitVec.toNat_ofNat] at hman'
      omega

/-- A time that is nothing beside another one: their quotient is at most half of the least positive float. -/
def Negligible (t b : Float) : Prop := 2 ^ 1075 * quanta t ≤ quanta b

instance (t b : Float) : Decidable (Negligible t b) := inferInstanceAs (Decidable (_ ≤ _))

theorem div_beq_zero_iff {t b : Float} (ht : t.isFinite) (hb : b.isFinite) (hb0 : b != 0.0) :
    t / b == 0.0 ↔ Negligible t b := by
  rw [beq_zero_iff, unpack_div]
  obtain ⟨sign₂, hzero⟩ | ⟨sign₂, m₂, e₂, h₂, hu₂, he₂⟩ := finite_cases hb
  · exact absurd (beq_zero_iff.2 ⟨sign₂, hzero⟩) (by simpa [bne] using hb0)
  · obtain ⟨sign₁, hu₁⟩ | ⟨sign₁, m₁, e₁, h₁, hu₁, he₁⟩ := finite_cases ht
    · have hq : quanta t = 0 := by rw [quanta, hu₁]
      have hn : Negligible t b := by simp only [Negligible, hq, Nat.mul_zero, Nat.zero_le]
      rw [hu₁, hu₂]
      exact iff_of_true ⟨_, stored_zero _⟩ hn
    · have hq₁ : quanta t = 2 ^ (e₁ + 1074).toNat * m₁ := by rw [quanta, hu₁]
      have hq₂ : quanta b = 2 ^ (e₂ + 1074).toNat * m₂ := by rw [quanta, hu₂]
      have hn : Negligible t b ↔
          2 ^ (1075 + (e₁ + 1074).toNat) * m₁ ≤ 2 ^ (e₂ + 1074).toNat * m₂ := by
        simp only [Negligible, hq₁, hq₂, Nat.pow_add, Nat.mul_assoc]
      rw [hu₁, hu₂, hn]
      obtain ⟨hsmall, hz⟩ | ⟨hsmall, m, e, hm, hf, hlt, he⟩ := div_finite_cases sign₁ sign₂ h₁ h₂ he₁ he₂
      · rw [hz]
        exact iff_of_true ⟨_, stored_zero _⟩ hsmall
      · rw [hf]
        refine iff_of_false (fun h => ?_) hsmall
        obtain ⟨sign', h⟩ := h
        exact stored_finite_ne_zero _ hm hlt he sign' h

theorem isFinite_of_isDuration {t : Float} (h : isDuration t) : t.isFinite := by
  rw [isDuration, Bool.and_eq_true] at h
  exact h.1

/-- A ratio is zero where the baseline took no time, and also where it took so much that the time is nothing
beside it. -/
theorem relativeTo_beq_zero_iff {base t : Float} (hb : isDuration base) (ht : isDuration t) :
    relativeTo base t == 0.0 ↔ base == 0.0 ∨ Negligible t base := by
  unfold relativeTo
  cases h0 : base == 0.0 with
  | true =>
    have hne : ¬ (base != 0.0) := by simp [bne, h0]
    rw [if_neg hne]
    exact iff_of_true (beq_zero_iff.2 ⟨.positive, rfl⟩) (.inl rfl)
  | false =>
    have hne : base != 0.0 := by simp [bne, h0]
    rw [if_pos hne, div_beq_zero_iff (isFinite_of_isDuration ht) (isFinite_of_isDuration hb) hne]
    simp

example : Negligible 5e-324 2.0 ∧ ¬ Negligible 5e-324 1.0 := by decide +kernel

end CodecBench
