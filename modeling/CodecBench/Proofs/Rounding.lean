import Mathlib
/-!
How floats of 64 bits are divided and rounded. A division shifts an extended mantissa, which stands for the exact
quotient all along (`Represents`), and rounds it once to 53 bits (`roundWithAccuracy_binary64`); above the least
exponent the quotient has them all (`le_quotient`). A finite float is a whole number of the least positive one
(`quanta`), and goes once into itself unless it is zero (`div_self_eq_one`).
-/

namespace CodecBench
open Float.Model Float.Model.UnpackedFloat

theorem targetExponent_binary64 (e : Int) : Format.binary64.targetExponent e = max (e - 53) (-1074) := rfl

theorem exponentBias_binary64 : Format.binary64.exponentBias = 1023 := rfl

theorem mantissaBitsWithoutImplicit_binary64 : Format.binary64.mantissaBitsWithoutImplicit = 52 := rfl

theorem two_pow_exponentBits_binary64 : 2 ^ Format.binary64.exponentBits = 2048 := rfl

theorem two_pow_mul_le_iff {a b c d x y : Nat} (h : a + d = b + c) :
    2 ^ a * x ≤ 2 ^ b * y ↔ 2 ^ c * x ≤ 2 ^ d * y := by
  have hd : 2 ^ d * (2 ^ a * x) = 2 ^ b * (2 ^ c * x) := by
    rw [← Nat.mul_assoc, ← Nat.mul_assoc, ← Nat.pow_add, ← Nat.pow_add, Nat.add_comm d, h]
  have hb : 2 ^ d * (2 ^ b * y) = 2 ^ b * (2 ^ d * y) := Nat.mul_left_comm _ _ _
  rw [← Nat.mul_le_mul_left_iff (Nat.two_pow_pos d), hd, hb,
    Nat.mul_le_mul_left_iff (Nat.two_pow_pos b)]

/-- An extended mantissa stands for a fraction: its whole part, whether the rest is at least one half, and
whether the rest is neither nothing nor one half. -/
structure Represents (em : ExtendedMantissa) (n d : Nat) : Prop where
  mantissa : em.mantissa = n / d
  roundBit : em.roundBit ↔ d ≤ 2 * (n % d)
  stickyBit : em.stickyBit ↔ n % d ≠ 0 ∧ 2 * (n % d) ≠ d

theorem roundedMantissa_cases (em : ExtendedMantissa) :
    em.roundedMantissa = em.mantissa ∨ em.roundedMantissa = em.mantissa + 1 := by
  rw [ExtendedMantissa.roundedMantissa]
  cases em.accuracy with
  | exact => exact .inl rfl
  | inexact o =>
    cases o with
    | lt => exact .inl rfl
    | eq =>
      simp only [Accuracy.roundToNearestEven]
      omega
    | gt => exact .inr rfl

theorem mantissa_ofMantissaAndAccuracy (m : Nat) (acc : Accuracy) :
    (ExtendedMantissa.ofMantissaAndAccuracy m acc).mantissa = m := by
  cases acc with
  | exact => rfl
  | inexact o => cases o <;> rfl

theorem mantissa_shiftRight (em : ExtendedMantissa) (k : Nat) : (em >>> k).mantissa = em.mantissa / 2 ^ k := by
  change (k.repeat ExtendedMantissa.shiftRightOne em).mantissa = em.mantissa / 2 ^ k
  induction k with
  | zero => simp [Nat.repeat]
  | succ k ih =>
    rw [Nat.repeat, Nat.pow_succ, ← Nat.div_div_eq_div_mul, ← ih]
    rfl

namespace Represents
variable {em : ExtendedMantissa} {n d : Nat}

theorem ofFraction (n : Nat) {d : Nat} (hd : 0 < d) :
    Represents (.ofMantissaAndAccuracy (n / d) (accuracyOfFraction (n % d) d)) n d := by
  unfold accuracyOfFraction
  by_cases hr : n % d = 0
  · constructor <;> simp [ExtendedMantissa.ofMantissaAndAccuracy, hr]
    omega
  · rw [if_neg hr]
    cases hc : compare (2 * (n % d)) d with
    | lt =>
      rw [Nat.compare_eq_lt] at hc
      constructor <;> simp [ExtendedMantissa.ofMantissaAndAccuracy] <;> omega
    | eq =>
      rw [Nat.compare_eq_eq] at hc
      constructor <;> simp [ExtendedMantissa.ofMantissaAndAccuracy] <;> omega
    | gt =>
      rw [Nat.compare_eq_gt] at hc
      constructor <;> simp [ExtendedMantissa.ofMantissaAndAccuracy] <;> omega

theorem ofNat (n : Nat) : Represents (.ofMantissaAndAccuracy n .exact) n 1 := by
  constructor <;> simp [ExtendedMantissa.ofMantissaAndAccuracy, Nat.mod_one]

theorem shiftRightOne (hd : 0 < d) (h : Represents em n d) :
    Represents em.shiftRightOne n (2 * d) := by
  have hq : em.shiftRightOne.mantissa = n / (2 * d) := by
    rw [Nat.mul_comm, ← Nat.div_div_eq_div_mul, ← h.mantissa]
    rfl
  have hr : n % (2 * d) = n % d + d * (n / d % 2) := by rw [Nat.mul_comm, Nat.mod_mul]
  have hlt : n % d < d := Nat.mod_lt n hd
  have hround : em.shiftRightOne.roundBit ↔ n / d % 2 = 1 := by
    simp [ExtendedMantissa.shiftRightOne, h.mantissa]
  have hsticky : em.shiftRightOne.stickyBit ↔ n % d ≠ 0 := by
    rw [ExtendedMantissa.shiftRightOne, Bool.or_eq_true, h.roundBit, h.stickyBit]
    omega
  obtain h0 | h1 := Nat.mod_two_eq_zero_or_one (n / d)
  · rw [h0] at hr hround
    exact ⟨hq, by rw [hround]; omega, by rw [hsticky]; omega⟩
  · rw [h1] at hr hround
    exact ⟨hq, by rw [hround]; omega, by rw [hsticky]; omega⟩

theorem shiftRight (hd : 0 < d) (h : Represents em n d) (k : Nat) :
    Represents (em >>> k) n (2 ^ k * d) := by
  change Represents (k.repeat ExtendedMantissa.shiftRightOne em) n (2 ^ k * d)
  induction k with
  | zero => simpa [Nat.repeat] using h
  | succ k ih =>
    rw [Nat.repeat, Nat.pow_succ', Nat.mul_assoc]
    exact ih.shiftRightOne (Nat.mul_pos (Nat.two_pow_pos k) hd)

theorem roundedMantissa_eq_zero_iff (hd : 0 < d) (h : Represents em n d) :
    em.roundedMantissa = 0 ↔ 2 * n ≤ d := by
  by_cases hn : n < d
  · have hm := h.mantissa
    have hr := h.roundBit
    have hs := h.stickyBit
    rw [Nat.div_eq_of_lt hn] at hm
    rw [Nat.mod_eq_of_lt hn] at hr hs
    obtain ⟨m, r, s⟩ := em
    simp only at hm hr hs
    subst hm
    cases r <;> cases s <;>
      simp [ExtendedMantissa.roundedMantissa, ExtendedMantissa.accuracy,
        Accuracy.roundToNearestEven] at hr hs ⊢ <;> omega
  · have hpos : 0 < em.mantissa := h.mantissa ▸ Nat.div_pos (Nat.le_of_not_lt hn) hd
    have hle := roundedMantissa_cases em
    omega

/-- Rounding reaches an even number half a step below it. -/
theorem two_mul_le_roundedMantissa_iff {b : Nat} (hd : 0 < d) (h : Represents em n d) :
    2 * (b + 1) ≤ em.roundedMantissa ↔ (4 * b + 3) * d ≤ 2 * n := by
  obtain ⟨hm, hr, hs⟩ := h
  have hn : d * (n / d) + n % d = n := Nat.div_add_mod n d
  have hx : n % d < d := Nat.mod_lt n hd
  have hb : (4 * b + 3) * d = 4 * (d * b) + 3 * d := by ring
  obtain ⟨m, r, s⟩ := em
  simp only at hm hr hs
  -- Only just below the even number does the rest decide.
  obtain hlt | heq | hgt := Nat.lt_trichotomy m (2 * b + 1)
  · have hle : d * (n / d) ≤ 2 * (d * b) := by
      calc d * (n / d) ≤ d * (2 * b) := Nat.mul_le_mul_left d (by omega)
        _ = 2 * (d * b) := by ring
    have hround := roundedMantissa_cases ⟨m, r, s⟩
    simp only at hround
    omega
  · have hq : d * (n / d) = 2 * (d * b) + d := by
      rw [← hm, heq]
      ring
    cases r <;> cases s <;>
      simp [ExtendedMantissa.roundedMantissa, ExtendedMantissa.accuracy,
        Accuracy.roundToNearestEven] at hr hs ⊢ <;> omega
  · have hle : 2 * (d * b) + 2 * d ≤ d * (n / d) := by
      calc 2 * (d * b) + 2 * d = d * (2 * b + 2) := by ring
        _ ≤ d * (n / d) := Nat.mul_le_mul_left d (by omega)
    have hround := roundedMantissa_cases ⟨m, r, s⟩
    simp only at hround
    omega

end Represents

section Rounded
variable {m : Nat} {e : Int} {k : Nat}
  (hk : k = (Format.binary64.targetExponent (totalExponent m e) - e).toNat)
include hk

theorem le_add_shift : -1074 ≤ e + k := by
  rw [targetExponent_binary64] at hk
  omega

theorem shifted_mantissa_lt (acc : Accuracy) :
    (ExtendedMantissa.ofMantissaAndAccuracy m acc >>> k).mantissa < 2 ^ 53 := by
  have hlog : m.log2 + 1 ≤ k + 53 := by
    rw [targetExponent_binary64, totalExponent] at hk
    omega
  rw [mantissa_shiftRight, mantissa_ofMantissaAndAccuracy]
  apply Nat.div_lt_of_lt_mul
  calc m < 2 ^ (m.log2 + 1) := Nat.lt_log2_self
    _ ≤ 2 ^ (k + 53) := Nat.pow_le_pow_right Nat.two_pos hlog
    _ = 2 ^ k * 2 ^ 53 := Nat.pow_add 2 k 53

/-- Rounding to 53 bits: the rounded mantissa fits, or it is a power of two that goes to the next exponent. -/
theorem roundWithAccuracy_binary64 (sign : Sign) (acc : Accuracy) {r : Nat}
    (hr : r = (ExtendedMantissa.ofMantissaAndAccuracy m acc >>> k).roundedMantissa) :
    roundWithAccuracy .binary64 sign m e acc =
      if h : r = 0 then .zero sign
      else if r < 2 ^ 53 then .finite sign r (e + k) (Nat.pos_of_ne_zero h)
      else .finite sign (2 ^ 52) (e + k + 1) (Nat.two_pow_pos 52) := by
  have he := le_add_shift hk
  -- What has been rounded is shifted once more, as it may have got one bit longer.
  let k' := (Format.binary64.targetExponent (totalExponent r (e + k)) - (e + k)).toNat
  have hround : roundWithAccuracy .binary64 sign m e acc =
      if h : r / 2 ^ k' = 0 then .zero sign else .finite sign (r / 2 ^ k') (e + k + k') (Nat.pos_of_ne_zero h) := by
    have hm : (ExtendedMantissa.ofMantissaAndAccuracy r .exact >>> k').mantissa = r / 2 ^ k' := by
      rw [mantissa_shiftRight, mantissa_ofMantissaAndAccuracy]
    simp only [← hm]
    simp only [k', hr, hk]
    rfl
  by_cases hlt : r < 2 ^ 53
  · have hlog : r.log2 < 53 := by
      by_cases h0 : r = 0
      · simp [h0]
      · exact (Nat.log2_lt h0).2 hlt
    have hk' : k' = 0 := by
      simp only [k', targetExponent_binary64, totalExponent]
      omega
    simp only [hk', Nat.pow_zero, Nat.div_one, Int.natCast_zero, Int.add_zero] at hround
    rw [hround]
    simp only [if_pos hlt]
  · have hr53 : r = 2 ^ 53 := by
      have hle := roundedMantissa_cases (ExtendedMantissa.ofMantissaAndAccuracy m acc >>> k)
      have hm := shifted_mantissa_lt hk acc
      omega
    have hk' : k' = 1 := by
      simp only [k', targetExponent_binary64, totalExponent, hr53, Nat.log2_two_pow]
      omega
    simp only [hk'] at hround
    rw [hround]
    clear_value k'
    subst hr53
    rw [dif_neg (by decide), dif_neg (by decide), if_neg (by decide)]
    rfl

end Rounded

def quotientExponent (m₁ : Nat) (e₁ : Int) (m₂ : Nat) (e₂ : Int) : Int :=
  min (e₁ - e₂) (Format.binary64.targetExponent (totalExponent m₁ e₁ - totalExponent m₂ e₂))

section Quotient
variable {m₁ m₂ : Nat} {e₁ e₂ : Int}

theorem le_quotient (h₁ : 0 < m₁) {e : Int} (he : e = quotientExponent m₁ e₁ m₂ e₂)
    {s k : Nat} (hs : e₁ - e₂ = e + s)
    (hk : k = (Format.binary64.targetExponent (totalExponent (2 ^ s * m₁ / m₂) e) - e).toNat)
    (hlt : -1074 < e + k) : 2 ^ (52 + k) * m₂ ≤ 2 ^ s * m₁ := by
  simp only [targetExponent_binary64, totalExponent] at hk
  simp only [quotientExponent, targetExponent_binary64, totalExponent] at he
  by_cases hk0 : k = 0
  · have hlog : 52 + (m₂.log2 + 1) ≤ s + m₁.log2 := by omega
    rw [hk0, Nat.add_zero]
    calc 2 ^ 52 * m₂ ≤ 2 ^ 52 * 2 ^ (m₂.log2 + 1) := Nat.mul_le_mul_left _ (Nat.le_of_lt Nat.lt_log2_self)
      _ = 2 ^ (52 + (m₂.log2 + 1)) := (Nat.pow_add ..).symm
      _ ≤ 2 ^ (s + m₁.log2) := Nat.pow_le_pow_right Nat.two_pos hlog
      _ = 2 ^ s * 2 ^ m₁.log2 := Nat.pow_add 2 s m₁.log2
      _ ≤ 2 ^ s * m₁ := Nat.mul_le_mul_left _ (Nat.log2_self_le (Nat.ne_of_gt h₁))
  · have hlog : 52 + k ≤ (2 ^ s * m₁ / m₂).log2 := by omega
    have hq : 2 ^ s * m₁ / m₂ ≠ 0 := by
      intro h
      rw [h, Nat.log2_zero] at hlog
      omega
    apply Nat.mul_le_of_le_div
    exact Nat.le_trans (Nat.pow_le_pow_right Nat.two_pos hlog) (Nat.log2_self_le hq)

/-- The quotient of finite floats is that of their mantissas, with as many bits more as it takes. -/
theorem exists_div_eq (sign₁ sign₂ : Sign) (e₁ e₂ : Int) (h₁ : 0 < m₁) (h₂ : 0 < m₂) :
    ∃ (e : Int) (s : Nat), e = quotientExponent m₁ e₁ m₂ e₂ ∧ e₁ - e₂ = e + s ∧
      UnpackedFloat.div .binary64 (.finite sign₁ m₁ e₁ h₁) (.finite sign₂ m₂ e₂ h₂) =
        roundWithAccuracy .binary64 (sign₁ / sign₂) (2 ^ s * m₁ / m₂) e
          (accuracyOfFraction (2 ^ s * m₁ % m₂) m₂) := by
  let e := quotientExponent m₁ e₁ m₂ e₂
  let s := (e₁ - e₂ - e).toNat
  have hs : e₁ - e₂ = e + s := by
    have hle : e ≤ e₁ - e₂ := Int.min_le_left _ _
    omega
  have hn : m₁ <<< s = 2 ^ s * m₁ := by rw [Nat.shiftLeft_eq, Nat.mul_comm]
  refine ⟨e, s, rfl, hs, ?_⟩
  rw [← hn]
  rfl

end Quotient

theorem fits_of_unpack {b : BitVec Format.binary64.numBits} {sign : Sign} {m : Nat} {e : Int} {hm : 0 < m}
    (h : UnpackedFloat.unpack .binary64 b = .finite sign m e hm) : m < 2 ^ 53 ∧ -1074 ≤ e ∧ e ≤ 971 := by
  have hwidth := mantissaBitsWithoutImplicit_binary64
  have hman : (unpackMantissa b).toNat < 2 ^ 52 := (unpackMantissa b).isLt
  have hexp : (unpackExponent b).toNat < 2 ^ 11 := (unpackExponent b).isLt
  unfold UnpackedFloat.unpack at h
  simp only [exponentBias_binary64] at h
  split at h
  · split at h <;> cases h
  · rename_i hinf
    have hne : (unpackExponent b).toNat ≠ 2047 := fun he =>
      hinf (BitVec.eq_of_toNat_eq (he.trans (by decide)))
    split at h
    · rename_i hzero
      have h0 : (unpackExponent b).toNat = 0 := by
        rw [hzero]
        rfl
      split at h
      · cases h
      · injection h
        omega
    · rename_i hpos
      have h0 : (unpackExponent b).toNat ≠ 0 := fun h0 => hpos (BitVec.eq_of_toNat_eq h0)
      have hlt : (1#1 ++ unpackMantissa b).toNat < 2 ^ 53 := (1#1 ++ unpackMantissa b).isLt
      injection h
      omega

/-- How often the least positive float goes into a finite one, whatever its sign. -/
def quanta (t : Float) : Nat :=
  match t.toModel.unpack with
  | .finite _ m e _ => 2 ^ (e + 1074).toNat * m
  | _ => 0

theorem beq_zero_iff {t : Float} : t == 0.0 ↔ ∃ sign, t.toModel.unpack = .zero sign := by
  have h0 : (0.0 : Float).toModel.unpack = .zero .positive := by
    rfl
  change t.toModel.unpack.beq (0.0 : Float).toModel.unpack ↔ _
  rw [h0]
  cases t.toModel.unpack with
  | infinity sign => cases sign <;> simp [UnpackedFloat.beq, UnpackedFloat.compare]
  | notANumber => simp [UnpackedFloat.beq, UnpackedFloat.compare]
  | zero sign => simp [UnpackedFloat.beq, UnpackedFloat.compare]
  | finite sign => cases sign <;> simp [UnpackedFloat.beq, UnpackedFloat.compare]

theorem finite_cases {t : Float} (h : t.isFinite) :
    (∃ sign, t.toModel.unpack = .zero sign) ∨
      ∃ sign m e hm, t.toModel.unpack = .finite sign m e hm ∧ -1074 ≤ e := by
  change t.toModel.unpack.isFinite at h
  cases hu : t.toModel.unpack with
  | infinity sign => simp [hu, UnpackedFloat.isFinite] at h
  | notANumber => simp [hu, UnpackedFloat.isFinite] at h
  | zero sign => exact .inl ⟨sign, rfl⟩
  | finite sign m e hm => exact .inr ⟨sign, m, e, hm, rfl, (fits_of_unpack hu).2.1⟩

/-- A number as it is stored in 64 bits: it becomes infinite if it is too great. -/
def stored (u : UnpackedFloat) : UnpackedFloat := UnpackedFloat.unpack .binary64 (UnpackedFloat.pack .binary64 u)

theorem stored_zero (sign : Sign) : stored (.zero sign) = .zero sign := unpack_packedZero

theorem unpack_div (x y : Float) :
    (x / y).toModel.unpack = stored (UnpackedFloat.div .binary64 x.toModel.unpack y.toModel.unpack) := rfl

theorem unpack_add (x y : Float) :
    (x + y).toModel.unpack = stored (UnpackedFloat.add .binary64 x.toModel.unpack y.toModel.unpack) := rfl

theorem isFinite_eq (x : Float) : x.isFinite = x.toModel.unpack.isFinite := rfl

theorem isFinite_zero : (0.0 : Float).isFinite := by rfl

theorem isFinite_one : (1.0 : Float).isFinite := by rfl

theorem one_beq_zero : ((1.0 : Float) == 0.0) = false := by rfl

theorem div_self_eq_one {x : Float} (hx : x.isFinite) (hx0 : x != 0.0) : x / x = 1.0 := by
  obtain ⟨sign, hz⟩ | ⟨sign, m, e, hm, hu, -⟩ := finite_cases hx
  · exact absurd (beq_zero_iff.2 ⟨sign, hz⟩) (by simpa [bne] using hx0)
  · obtain ⟨f, s, hf, hs, hq⟩ := exists_div_eq sign sign e e hm hm
    obtain rfl : f = -53 := by
      rw [hf, quotientExponent, targetExponent_binary64]
      omega
    obtain rfl : s = 53 := by omega
    have hsign : sign / sign = .positive := by cases sign <;> rfl
    rw [hsign, Nat.mul_div_cancel _ hm, Nat.mul_mod_left, accuracyOfFraction, if_pos rfl] at hq
    have hone : UnpackedFloat.div .binary64 x.toModel.unpack x.toModel.unpack =
        .finite .positive (2 ^ 52) (-52) (Nat.two_pow_pos 52) := by
      rw [hu, hq]
      rfl
    exact congrArg (fun u => Float.ofModel (Float.Model.pack u)) hone

end CodecBench
