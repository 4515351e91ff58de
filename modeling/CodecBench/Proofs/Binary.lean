import CodecBench.Decimal.Basic
import CodecBench.Proofs.Nearest
/-!
Doubles as their sign, significand and exponent. Each of these has one double (`exists_ofFloat`, `eq_of_ofFloat`), the
doubles next to it are a step away (`IsCanonical.isApart`), and between two even ones there is another one. So only one
double of a sign is nearest to a number (`IsNearest.unique`).
-/

namespace CodecBench
open Float.Model Float.Model.UnpackedFloat

section Bits
variable (b : BitVec Format.binary64.numBits)

theorem toNat_unpackMantissa : (unpackMantissa b).toNat = b.toNat % 2 ^ 52 := by
  change (BitVec.cast _ (b.extractLsb 51 0)).toNat = _
  simp

theorem toNat_unpackExponent : (unpackExponent b).toNat = b.toNat >>> 52 % 2 ^ 11 := by
  change (BitVec.cast _ (b.extractLsb 62 52)).toNat = _
  simp

theorem ofBitVec_unpackSign : Sign.ofBitVec (unpackSign b) = if 2 ^ 63 ≤ b.toNat then .negative else .positive := by
  have hlt : b.toNat < 2 ^ 64 := b.isLt
  have hs : (unpackSign b).toNat = b.toNat >>> 63 % 2 := by
    change (BitVec.cast _ (b.extractLsb 63 63)).toNat = _
    simp
  have h0 : unpackSign b = 0#1 ↔ ¬ 2 ^ 63 ≤ b.toNat := by
    rw [← BitVec.toNat_inj, hs, Nat.shiftRight_eq_div_pow]
    change _ = 0 ↔ _
    omega
  rw [Sign.ofBitVec]
  by_cases h : 2 ^ 63 ≤ b.toNat
  · rw [if_pos h, if_neg (fun hz => h0.1 hz h)]
  · rw [if_neg h, if_pos (h0.2 h)]

end Bits

def signBit (x : Float) : Bool := decide (2 ^ 63 ≤ x.toBits.toNat)

/-- A significand and an exponent of a double. It has its full width unless the exponent is the least. -/
structure IsCanonical (m : Nat) (e : Int) : Prop where
  lt : m < 2 ^ 53
  least : -1074 ≤ e
  greatest : e ≤ 971
  full : 2 ^ 52 ≤ m ∨ e = -1074

structure IsBinary (x : Float) (negative : Bool) (m : Nat) (e : Int) : Prop where
  finite : x.isFinite
  canonical : IsCanonical m e
  rational_eq : rational x = (if negative then -1 else 1) * (m * 2 ^ e)
  even : HasEvenMantissa x ↔ m % 2 = 0

def bitsOf (x : Float) : BitVec Format.binary64.numBits := x.toBits.toBitVec

theorem unpack_eq (x : Float) : x.toModel.unpack = UnpackedFloat.unpack .binary64 (bitsOf x) := rfl

theorem signFactor_ofBitVec (x : Float) :
    signFactor (.ofBitVec (unpackSign (bitsOf x))) = if signBit x then -1 else 1 := by
  have hs : signBit x = decide (2 ^ 63 ≤ (bitsOf x).toNat) := rfl
  rw [ofBitVec_unpackSign, hs]
  by_cases h : 2 ^ 63 ≤ (bitsOf x).toNat
  · rw [if_pos h, if_pos (decide_eq_true h)]
    rfl
  · rw [if_neg h, if_neg (by simpa using h)]
    rfl

theorem ofFloat_eq {x : Float} (h : (unpackExponent (bitsOf x)).toNat ≠ 2047) :
    Binary.ofFloat x =
      if (unpackExponent (bitsOf x)).toNat = 0 then .finite (signBit x) (unpackMantissa (bitsOf x)).toNat (-1074)
      else .finite (signBit x) (2 ^ 52 + (unpackMantissa (bitsOf x)).toNat)
        ((unpackExponent (bitsOf x)).toNat - 1075) := by
  rw [toNat_unpackExponent] at *
  rw [toNat_unpackMantissa]
  exact if_neg h

theorem exponent_ne_of_isFinite {x : Float} (h : x.isFinite) : (unpackExponent (bitsOf x)).toNat ≠ 2047 := fun he =>
  (isFinite_unpack_iff _).1 h (BitVec.eq_of_toNat_eq (he.trans (by decide)))

theorem ofFloat_of_isFinite {x : Float} (h : x.isFinite) :
    ∃ m e, Binary.ofFloat x = .finite (signBit x) m e ∧ IsBinary x (signBit x) m e := by
  have hmlt : (unpackMantissa (bitsOf x)).toNat < 2 ^ 52 := BitVec.isLt _
  have hinf : unpackExponent (bitsOf x) ≠ -1#_ := (isFinite_unpack_iff _).1 h
  have hne := exponent_ne_of_isFinite h
  have hunpack := unpack_eq x
  unfold UnpackedFloat.unpack at hunpack
  simp only [exponentBias_binary64, if_neg hinf] at hunpack
  rw [ofFloat_eq hne]
  by_cases hzero : (unpackExponent (bitsOf x)).toNat = 0
  · have hz : unpackExponent (bitsOf x) = 0#_ := BitVec.eq_of_toNat_eq hzero
    rw [if_pos hz] at hunpack
    rw [if_pos hzero]
    refine ⟨_, _, rfl, h, ⟨by omega, by omega, by omega, .inr rfl⟩, ?_, ?_⟩
    · by_cases hm : unpackMantissa (bitsOf x) = 0#_
      · rw [dif_pos hm] at hunpack
        rw [rational, hunpack, hm]
        simp
      · rw [dif_neg hm] at hunpack
        rw [rational_of_unpack hunpack, signFactor_ofBitVec, hzero]
        rfl
    · by_cases hm : unpackMantissa (bitsOf x) = 0#_
      · rw [dif_pos hm] at hunpack
        rw [HasEvenMantissa, hunpack, hm]
        simp
      · rw [dif_neg hm] at hunpack
        rw [HasEvenMantissa, hunpack]
  · have hz : unpackExponent (bitsOf x) ≠ 0#_ := fun hz => hzero (by rw [hz]; rfl)
    have happend : (1#1 ++ unpackMantissa (bitsOf x)).toNat = 2 ^ 52 + (unpackMantissa (bitsOf x)).toNat := by
      rw [BitVec.toNat_append, ← Nat.shiftLeft_add_eq_or_of_lt (BitVec.isLt _)]
      rfl
    have helt : (unpackExponent (bitsOf x)).toNat < 2 ^ 11 := BitVec.isLt _
    rw [if_neg hz] at hunpack
    rw [if_neg hzero]
    refine ⟨_, _, rfl, h, ⟨by omega, by omega, by omega, .inl (by omega)⟩, ?_, ?_⟩
    · rw [rational_of_unpack hunpack, signFactor_ofBitVec, happend]
      rfl
    · rw [HasEvenMantissa, hunpack]
      simp only [happend]

/-- How far down it is from a double to halfway to the next, in quarters of the step up. Below a power of two the next
one is only half a step away. -/
def quartersDown (m : Nat) (e : Int) : Nat := if m = 2 ^ 52 ∧ -1074 < e then 1 else 2

theorem quartersDown_le (m : Nat) (e : Int) : (quartersDown m e : ℚ) ≤ 2 := by
  unfold quartersDown
  split <;> norm_num

theorem quartersDown_pos (m : Nat) (e : Int) : 0 < quartersDown m e := by
  unfold quartersDown
  split <;> decide

theorem two_zpow_eq (e : Int) : (2 : ℚ) ^ e = 4 * 2 ^ (e - 2) := by
  rw [zpow_sub₀ two_ne_zero]
  ring

/-- A number that is a double or a whole step away from it. -/
def IsApart (m : Nat) (e : Int) (a : ℚ) : Prop :=
  a = m * 2 ^ e ∨ m * 2 ^ e + 2 * (2 * 2 ^ (e - 2)) ≤ a ∨ a + 2 * (quartersDown m e * 2 ^ (e - 2)) ≤ m * 2 ^ e

theorem IsCanonical.isApart {m m' : Nat} {e e' : Int} (h : IsCanonical m e) (h' : IsCanonical m' e') :
    IsApart m e (m' * 2 ^ e') := by
  have hquarter : (0 : ℚ) < 2 ^ (e - 2) := by positivity
  unfold IsApart
  by_cases he : e ≤ e'
  · have hdown : (quartersDown m e * 2 ^ (e - 2) : ℚ) ≤ 2 * 2 ^ (e - 2) := by
      gcongr
      exact quartersDown_le m e
    rw [mul_two_zpow_eq he, two_zpow_eq e]
    generalize ((m' * 2 ^ (e' - e).toNat : ℕ) : ℤ) = z
    obtain hlt | rfl | hgt := lt_trichotomy z m
    · have hle : ((z : ℚ) + 1) * (4 * 2 ^ (e - 2)) ≤ m * (4 * 2 ^ (e - 2)) := by
        gcongr
        exact_mod_cast hlt
      exact .inr (.inr (by linarith))
    · exact .inl (by push_cast; ring)
    · have hle : ((m : ℚ) + 1) * (4 * 2 ^ (e - 2)) ≤ z * (4 * 2 ^ (e - 2)) := by
        gcongr
        exact_mod_cast hgt
      exact .inr (.inl (by linarith))
  · -- Doubles on a finer grid do not reach the least significand of full width.
    have hm : 2 ^ 52 ≤ m := h.full.resolve_right fun h0 => he (h0 ▸ h'.least)
    have hm' : (m' : ℚ) ≤ 2 ^ 53 - 1 := by
      have hlt := h'.lt
      rw [le_sub_iff_add_le]
      exact_mod_cast hlt
    have hgrid : (2 : ℚ) ^ e' ≤ 2 * 2 ^ (e - 2) := by
      rw [← zpow_one_add₀ two_ne_zero]
      exact zpow_le_zpow_right₀ one_le_two (by omega)
    have hfine : (m' : ℚ) * 2 ^ e' ≤ (2 ^ 53 - 1) * (2 * 2 ^ (e - 2)) := by gcongr
    rw [two_zpow_eq e]
    by_cases hpow : m = 2 ^ 52
    · have hleast := h'.least
      have hone : quartersDown m e = 1 := if_pos ⟨hpow, by omega⟩
      rw [hone, hpow]
      push_cast
      exact .inr (.inr (by linarith))
    · have hle : ((2 ^ 52 + 1 : ℕ) : ℚ) * (4 * 2 ^ (e - 2)) ≤ m * (4 * 2 ^ (e - 2)) := by
        gcongr
        omega
      have htwo : quartersDown m e = 2 := if_neg fun h => hpow h.1
      rw [htwo]
      push_cast at hle ⊢
      exact .inr (.inr (by linarith))

theorem IsCanonical.isApart_neg {m m' : Nat} {e e' : Int} (h : IsCanonical m e) (hm : 0 < m) :
    IsApart m e (-(m' * 2 ^ e')) := by
  have hquarter : (0 : ℚ) < 2 ^ (e - 2) := by positivity
  have hpos : (0 : ℚ) < m * 2 ^ e := by
    have hm' : (0 : ℚ) < m := by exact_mod_cast hm
    positivity
  have hnonneg : (0 : ℚ) ≤ m' * 2 ^ e' := by positivity
  -- Zero is in between.
  have hleast : IsCanonical 0 (-1074) := ⟨by decide, by decide, by decide, .inr rfl⟩
  have hzero := h.isApart hleast
  rw [Nat.cast_zero, zero_mul] at hzero
  obtain heq | habove | hbelow := hzero
  · exact absurd heq hpos.ne
  · linarith
  · exact .inr (.inr (by linarith))

theorem IsCanonical.ext {m m' : Nat} {e e' : Int} (h : IsCanonical m e) (h' : IsCanonical m' e')
    (hq : (m * 2 ^ e : ℚ) = m' * 2 ^ e') : m = m' ∧ e = e' := by
  have hle : ∀ {m m' : Nat} {e e' : Int}, IsCanonical m e → IsCanonical m' e' → e ≤ e' →
      (m * 2 ^ e : ℚ) = m' * 2 ^ e' → m = m' ∧ e = e' := by
    intro m m' e e' h h' he hq
    rw [mul_two_zpow_eq he] at hq
    have hm : m = m' * 2 ^ (e' - e).toNat := by
      exact_mod_cast mul_right_cancel₀ (zpow_ne_zero e two_ne_zero) hq
    by_cases heq : e = e'
    · subst heq
      exact ⟨by simpa using hm, rfl⟩
    · -- The finer of two grids has no room for the double of a full width.
      have hfull : 2 ^ 52 ≤ m' := h'.full.resolve_right fun h0 => by
        have hleast := h.least
        omega
      have htwo : 2 ≤ 2 ^ (e' - e).toNat := Nat.le_self_pow (by omega) 2
      have hmul := Nat.mul_le_mul hfull htwo
      have hlt := h.lt
      omega
  obtain he | he := le_total e e'
  · exact hle h h' he hq
  · obtain ⟨hm, he⟩ := hle h' h he hq.symm
    exact ⟨hm.symm, he.symm⟩

theorem fields_of_ofFloat {x : Float} (h : x.isFinite) {negative : Bool} {m : Nat} {e : Int}
    (hof : Binary.ofFloat x = .finite negative m e) :
    (unpackExponent (bitsOf x)).toNat = (if m < 2 ^ 52 then 0 else (e + 1075).toNat) ∧
      (unpackMantissa (bitsOf x)).toNat = m % 2 ^ 52 := by
  have hmlt : (unpackMantissa (bitsOf x)).toNat < 2 ^ 52 := BitVec.isLt _
  rw [ofFloat_eq (exponent_ne_of_isFinite h)] at hof
  split at hof
  · injection hof with _ hm _
    rw [if_pos (by omega)]
    omega
  · injection hof with _ hm he
    rw [if_neg (by omega)]
    omega

theorem eq_of_ofFloat {x y : Float} (hx : x.isFinite) (hy : y.isFinite) {negative : Bool} {m : Nat} {e : Int}
    (hofx : Binary.ofFloat x = .finite negative m e) (hofy : Binary.ofFloat y = .finite negative m e) : x = y := by
  have hsign : signBit x = signBit y := by
    obtain ⟨_, _, hof, -⟩ := ofFloat_of_isFinite hx
    obtain ⟨_, _, hof', -⟩ := ofFloat_of_isFinite hy
    rw [hof] at hofx
    rw [hof'] at hofy
    injection hofx with hnx
    injection hofy with hny
    exact hnx.trans hny.symm
  have hs : Sign.ofBitVec (unpackSign (bitsOf x)) = Sign.ofBitVec (unpackSign (bitsOf y)) := by
    have h := decide_eq_decide.1 hsign
    simp only [ofBitVec_unpackSign]
    exact if_congr h rfl rfl
  obtain ⟨hex, hmx⟩ := fields_of_ofFloat hx hofx
  obtain ⟨hey, hmy⟩ := fields_of_ofFloat hy hofy
  have he : unpackExponent (bitsOf x) = unpackExponent (bitsOf y) := BitVec.eq_of_toNat_eq (hex.trans hey.symm)
  have hm : unpackMantissa (bitsOf x) = unpackMantissa (bitsOf y) := BitVec.eq_of_toNat_eq (hmx.trans hmy.symm)
  have hunpack : UnpackedFloat.unpack .binary64 (bitsOf x) = UnpackedFloat.unpack .binary64 (bitsOf y) := by
    simp only [UnpackedFloat.unpack, hs, he, hm]
  have hbits : bitsOf x = bitsOf y := (unpack_inj_of_valid x.toModel.valid y.toModel.valid).1 hunpack
  obtain ⟨⟨u, hu⟩⟩ := x
  obtain ⟨⟨v, hv⟩⟩ := y
  obtain rfl : u = v := UInt64.toBitVec_inj.1 hbits
  rfl

/-- Every significand and exponent of a double is that of one of either sign. -/
theorem exists_ofFloat (negative : Bool) {m : Nat} {e : Int} (h : IsCanonical m e) :
    ∃ x : Float, x.isFinite ∧ Binary.ofFloat x = .finite negative m e := by
  obtain ⟨hlt, hleast, hgreatest, hfull⟩ := h
  let sign : Sign := if negative then .negative else .positive
  let biased : Nat := if m < 2 ^ 52 then 0 else (e + 1075).toNat
  have hbiased : biased < 2047 := by
    simp only [biased]
    split <;> omega
  let b := packComponents .binary64 sign (BitVec.ofNat _ biased) (BitVec.ofNat _ m)
  have hexp : (unpackExponent b).toNat = biased := by
    rw [unpackExponent_packComponents, BitVec.toNat_ofNat]
    exact Nat.mod_eq_of_lt (hbiased.trans (by decide))
  have hmant : (unpackMantissa b).toNat = m % 2 ^ 52 := by
    rw [unpackMantissa_packComponents]
    exact BitVec.toNat_ofNat ..
  have hinf : unpackExponent b ≠ -1#_ := by
    intro hinf
    have hones : (-1#_ : BitVec Format.binary64.exponentBits).toNat = 2047 := by decide
    rw [hinf, hones] at hexp
    omega
  let x := Float.ofModel ⟨⟨b⟩, ⟨fun h => absurd h hinf⟩⟩
  have hb : bitsOf x = b := rfl
  have hsign : signBit x = negative := by
    have hs := ofBitVec_unpackSign b
    rw [unpackSign_packComponents, Sign.ofBitVec_toBitVec] at hs
    change decide (2 ^ 63 ≤ b.toNat) = negative
    cases negative <;> simpa [sign] using hs
  refine ⟨x, (isFinite_unpack_iff b).2 hinf, ?_⟩
  rw [ofFloat_eq (by rw [hb]; omega), hb, hexp, hmant, hsign]
  simp only [biased]
  by_cases hm : m < 2 ^ 52
  · have he : e = -1074 := hfull.resolve_left (Nat.not_le.2 hm)
    rw [if_pos hm, if_pos rfl, Nat.mod_eq_of_lt hm, he]
  · rw [if_neg hm, if_neg (by omega)]
    congr 1 <;> omega

/-- Between even doubles of one sign there is another one. -/
theorem exists_between (negative : Bool) {m m' : Nat} {e e' : Int} (h : IsCanonical m e) (h' : IsCanonical m' e')
    (hm : m % 2 = 0) (hm' : m' % 2 = 0) (hlt : (m * 2 ^ e : ℚ) < m' * 2 ^ e') :
    ∃ (z : Float) (a : ℚ), z.isFinite ∧ rational z = (if negative then -1 else 1) * a ∧ m * 2 ^ e < a ∧
      a < m' * 2 ^ e' := by
  have hmlt := h.lt
  -- The next significand is odd, so it is still of one width with this one.
  have hnext : IsCanonical (m + 1) e := ⟨by omega, h.least, h.greatest, h.full.imp_left (by omega)⟩
  obtain ⟨z, hz, hof⟩ := exists_ofFloat negative hnext
  obtain ⟨n, i, hof', hzb⟩ := ofFloat_of_isFinite hz
  rw [hof] at hof'
  injection hof' with hs hn hi
  rw [← hs, ← hn, ← hi] at hzb
  have hquarter : (0 : ℚ) < 2 ^ (e - 2) := by positivity
  have hstep : ((m + 1 : ℕ) * 2 ^ e : ℚ) = m * 2 ^ e + 2 * (2 * 2 ^ (e - 2)) := by
    rw [two_zpow_eq e]
    push_cast
    ring
  refine ⟨z, (m + 1 : ℕ) * 2 ^ e, hz, hzb.rational_eq, by rw [hstep]; linarith, lt_of_le_of_ne ?_ fun heq => ?_⟩
  · obtain heq | habove | hbelow := h.isApart h'
    · exact absurd heq hlt.ne'
    · rwa [hstep]
    · have hdown : (0 : ℚ) < quartersDown m e := by exact_mod_cast quartersDown_pos m e
      have hmul := mul_pos hdown hquarter
      linarith
  · obtain ⟨hodd, -⟩ := hnext.ext h' heq
    omega

theorem abs_sub_lt_of_between {a b c q : ℚ} (h : |a - q| = |b - q|) (hac : a < c) (hcb : c < b) :
    |c - q| < |a - q| := by
  have hmid : a - q = -(b - q) := (abs_eq_abs.1 h).resolve_left fun h => by linarith
  rw [abs_lt, abs_of_nonpos (by linarith : a - q ≤ 0)]
  exact ⟨by linarith, by linarith⟩

theorem abs_signed_sub (negative : Bool) (a q : ℚ) :
    |(if negative then -1 else 1) * a - q| = |a - (if negative then -1 else 1) * q| := by
  cases negative with
  | false => simp
  | true =>
    have hneg : -1 * a - q = -(a - -1 * q) := by ring
    simp only [if_true]
    rw [hneg, abs_neg]

/-- Of the doubles of one sign only one is nearest to a number. -/
theorem IsNearest.unique {x y : Float} {q : ℚ} (hx : IsNearest x q) (hy : IsNearest y q)
    (hs : signBit x = signBit y) : x = y := by
  have hle : ∀ {x y : Float}, IsNearest x q → y.isFinite → |rational x - q| ≤ |rational y - q| := fun hx hy =>
    (hx.2 _ hy).elim le_of_lt fun h => h.1.le
  have heq : |rational x - q| = |rational y - q| := le_antisymm (hle hx hy.1) (hle hy hx.1)
  obtain ⟨m, e, hof, hbx⟩ := ofFloat_of_isFinite hx.1
  obtain ⟨m', e', hof', hby⟩ := ofFloat_of_isFinite hy.1
  rw [← hs] at hof' hby
  by_cases hr : rational x = rational y
  · have hcancel : (m * 2 ^ e : ℚ) = m' * 2 ^ e' := by
      rw [hbx.rational_eq, hby.rational_eq] at hr
      cases hsx : signBit x <;> simpa [hsx] using hr
    obtain ⟨rfl, rfl⟩ := hbx.canonical.ext hby.canonical hcancel
    exact eq_of_ofFloat hx.1 hy.1 hof hof'
  · have heven : m % 2 = 0 := hbx.even.1 (((hx.2 y hy.1).resolve_left heq.not_lt).2.resolve_left (Ne.symm hr))
    have heven' : m' % 2 = 0 := hby.even.1 (((hy.2 x hx.1).resolve_left heq.not_gt).2.resolve_left hr)
    -- What lies between two that are as near is nearer.
    have hnone : ∀ {x y : Float} {m m' : Nat} {e e' : Int}, IsNearest x q → IsBinary x (signBit x) m e →
        IsBinary y (signBit x) m' e' → |rational x - q| = |rational y - q| → m % 2 = 0 → m' % 2 = 0 →
        ¬ (m * 2 ^ e : ℚ) < m' * 2 ^ e' := by
      intro x y m m' e e' hx hbx hby heq hm hm' hlt
      obtain ⟨z, a, hz, hza, hlow, hhigh⟩ := exists_between (signBit x) hbx.canonical hby.canonical hm hm' hlt
      have hzx := hle hx hz
      rw [hbx.rational_eq, hby.rational_eq, abs_signed_sub, abs_signed_sub] at heq
      rw [hbx.rational_eq, hza, abs_signed_sub, abs_signed_sub] at hzx
      exact absurd (abs_sub_lt_of_between heq hlow hhigh) hzx.not_gt
    obtain hlt | hcancel | hgt := lt_trichotomy (m * 2 ^ e : ℚ) (m' * 2 ^ e')
    · exact absurd hlt (hnone hx hbx hby heq heven heven')
    · exact absurd (by rw [hbx.rational_eq, hby.rational_eq, hcancel]) hr
    · rw [hs] at hbx hby
      exact absurd hgt (hnone hy hby hbx heq.symm heven' heven)

end CodecBench
