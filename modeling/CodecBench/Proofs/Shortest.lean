import CodecBench.Proofs.Binary
import CodecBench.Proofs.Decimals
/-!
Shortest decimals. A finite double is a significand times a power of two, and the doubles next to it are a step away
from it (`IsCanonical.isApart`), so that it is nearest to every number no more than half a step away
(`IsBinary.isNearest`). The search for a shortest decimal only takes such numbers, and it comes to an end
(`Decimal.isWithin_shortest`): the text of a double is a numeral that no other double is nearer to
(`exists_numeral_of_isFinite`).
-/

namespace CodecBench
open Float.Model Float.Model.UnpackedFloat

/-- The numbers that are nearer to a double than to those beside it. Only an even one has those halfway. -/
structure IsWithin (m : Nat) (e : Int) (q : ℚ) : Prop where
  low : m * 2 ^ e - quartersDown m e * 2 ^ (e - 2) ≤ q
  high : q ≤ m * 2 ^ e + 2 * 2 ^ (e - 2)
  even : q = m * 2 ^ e - quartersDown m e * 2 ^ (e - 2) ∨ q = m * 2 ^ e + 2 * 2 ^ (e - 2) → m % 2 = 0

theorem abs_sub_lt_or_halfway {a a' q up down : ℚ} (hlow : a - down ≤ q) (hhigh : q ≤ a + up)
    (hgap : a' = a ∨ a + 2 * up ≤ a' ∨ a' + 2 * down ≤ a) (hup : 0 < up) (hdown : 0 < down) :
    |a - q| < |a' - q| ∨ |a - q| = |a' - q| ∧ (a' = a ∨ q = a - down ∨ q = a + up) := by
  obtain rfl | habove | hbelow := hgap
  · exact .inr ⟨rfl, .inl rfl⟩
  · rw [abs_of_nonneg (by linarith : 0 ≤ a' - q)]
    obtain h | h := le_total a q
    · rw [abs_of_nonpos (by linarith)]
      obtain hlt | heq := lt_or_eq_of_le (by linarith : -(a - q) ≤ a' - q)
      · exact .inl hlt
      · exact .inr ⟨heq, .inr (.inr (by linarith))⟩
    · rw [abs_of_nonneg (by linarith)]
      exact .inl (by linarith)
  · rw [abs_of_nonpos (by linarith : a' - q ≤ 0)]
    obtain h | h := le_total a q
    · rw [abs_of_nonpos (by linarith)]
      exact .inl (by linarith)
    · rw [abs_of_nonneg (by linarith)]
      obtain hlt | heq := lt_or_eq_of_le (by linarith : a - q ≤ -(a' - q))
      · exact .inl hlt
      · exact .inr ⟨heq, .inr (.inl (by linarith))⟩

theorem IsWithin.abs_sub_le {m : Nat} {e : Int} {q a : ℚ} (h : IsWithin m e q) (ha : IsApart m e a) :
    |m * 2 ^ e - q| < |a - q| ∨ |m * 2 ^ e - q| = |a - q| ∧ (a = m * 2 ^ e ∨ m % 2 = 0) := by
  have hquarter : (0 : ℚ) < 2 ^ (e - 2) := by positivity
  have hdown : (0 : ℚ) < quartersDown m e := by exact_mod_cast quartersDown_pos m e
  exact (abs_sub_lt_or_halfway h.low h.high ha (by linarith) (mul_pos hdown hquarter)).imp_right
    fun hq => ⟨hq.1, hq.2.imp_right h.even⟩

theorem IsBinary.isNearest {x : Float} {negative : Bool} {m : Nat} {e : Int} {q : ℚ} (hx : IsBinary x negative m e)
    (hm : 0 < m) (hq : IsWithin m e q) : IsNearest x ((if negative then -1 else 1) * q) := by
  refine ⟨hx.finite, fun y hy => ?_⟩
  obtain ⟨m', e', -, hy⟩ := ofFloat_of_isFinite hy
  obtain ⟨a, hya, ha⟩ : ∃ a, rational y = (if negative then -1 else 1) * a ∧ IsApart m e a := by
    by_cases hs : signBit y = negative
    · exact ⟨_, hs ▸ hy.rational_eq, hx.canonical.isApart hy.canonical⟩
    · refine ⟨-(m' * 2 ^ e'), ?_, hx.canonical.isApart_neg hm⟩
      rw [hy.rational_eq]
      cases negative <;> simp_all
  have habs : ∀ b c : ℚ, |(if negative then -1 else 1) * b - (if negative then -1 else 1) * c| = |b - c| := by
    intro b c
    cases negative with
    | false => simp
    | true => exact abs_signFactor_mul .negative b c
  rw [hx.rational_eq, hya, hx.even, habs, habs]
  exact (hq.abs_sub_le ha).imp_right fun h => ⟨h.1, h.2.imp_left fun h => by rw [h]⟩

namespace Decimal

theorem Rounding.contains_of_multiple? {r : Rounding} {tieUp : Bool} {step n : Nat}
    (h : r.multiple? tieUp step = some n) : 0 < n ∧ r.contains (n * step) := by
  unfold multiple? at h
  simp only [Bool.and_eq_true, decide_eq_true_eq] at h
  have hboth : ∀ b a : Nat, a = b + 1 → (0 < b ∧ r.contains (b * step)) → r.contains (a * step) →
      (n = b ∨ n = a) → 0 < n ∧ r.contains (n * step) := by
    rintro b a rfl hb ha (rfl | rfl)
    · exact hb
    · exact ⟨Nat.succ_pos _, ha⟩
  split at h
  · rename_i hok
    refine hboth _ _ rfl hok.1 hok.2 ?_
    -- Halfway the even one of the two is taken, or the upper one.
    split at h
    · exact .inl (Option.some.inj h).symm
    · split at h
      · exact .inr (Option.some.inj h).symm
      · split at h <;> (have hn := Option.some.inj h; omega)
  · split at h
    · obtain rfl := Option.some.inj h
      assumption
    · split at h
      · obtain rfl := Option.some.inj h
        exact ⟨Nat.succ_pos _, by assumption⟩
      · cases h

theorem Rounding.exists_multiple? {r : Rounding} (hlow : r.low < r.value) (hhigh : r.value < r.high) {step : Nat}
    (hstep : step ∣ r.value) (tieUp : Bool) : ∃ n, r.multiple? tieUp step = some n := by
  have hvalue : r.value / step * step = r.value := Nat.div_mul_cancel hstep
  have hpos : 0 < r.value / step := by
    apply Nat.pos_of_ne_zero
    intro h0
    rw [h0, Nat.zero_mul] at hvalue
    omega
  have hcontains : r.contains (r.value / step * step) := by
    rw [hvalue, contains]
    split <;> simp <;> omega
  unfold multiple?
  simp only [hpos, hcontains, decide_true, Bool.and_self, Bool.true_and, if_true]
  split
  · split
    · exact ⟨_, rfl⟩
    · split <;> exact ⟨_, rfl⟩
  · exact ⟨_, rfl⟩

theorem powersOf_pos {base : Nat} (hb : 0 < base) (e : Int) : 0 < (powersOf base e).2 := Nat.pow_pos hb

theorem powersOf_fst (base : Nat) (hb : 0 < base) (e : Int) :
    ((powersOf base e).1 : ℚ) = base ^ e * (powersOf base e).2 := by
  have hb' : (base : ℚ) ≠ 0 := by exact_mod_cast hb.ne'
  have he : (e.toNat : Int) = e + (-e).toNat := by omega
  have hz : (base : ℚ) ^ e.toNat = base ^ e * base ^ (-e).toNat := by
    rw [← zpow_natCast, he, zpow_add₀ hb', zpow_natCast]
  simpa [powersOf] using hz

theorem count_le_iff (e scale : Int) (c n : Nat) :
    (c * ((powersOf 2 (e - 2)).1 * (powersOf 10 scale).2) ≤ n * ((powersOf 10 scale).1 * (powersOf 2 (e - 2)).2) ↔
      (c * 2 ^ (e - 2) : ℚ) ≤ n * 10 ^ scale) ∧
    (n * ((powersOf 10 scale).1 * (powersOf 2 (e - 2)).2) ≤ c * ((powersOf 2 (e - 2)).1 * (powersOf 10 scale).2) ↔
      (n * 10 ^ scale : ℚ) ≤ c * 2 ^ (e - 2)) := by
  have htwo := powersOf_fst 2 (by decide) (e - 2)
  have hten := powersOf_fst 10 (by decide) scale
  have hpos : (0 : ℚ) < (powersOf 2 (e - 2)).2 * (powersOf 10 scale).2 := by
    exact_mod_cast Nat.mul_pos (powersOf_pos (by decide) _) (powersOf_pos (by decide) _)
  have hc : ((c * ((powersOf 2 (e - 2)).1 * (powersOf 10 scale).2) : ℕ) : ℚ) =
      c * 2 ^ (e - 2) * ((powersOf 2 (e - 2)).2 * (powersOf 10 scale).2) := by
    push_cast
    rw [htwo]
    push_cast
    ring
  have hn : ((n * ((powersOf 10 scale).1 * (powersOf 2 (e - 2)).2) : ℕ) : ℚ) =
      n * 10 ^ scale * ((powersOf 2 (e - 2)).2 * (powersOf 10 scale).2) := by
    push_cast
    rw [hten]
    push_cast
    ring
  rw [← Nat.cast_le (α := ℚ), ← Nat.cast_le (α := ℚ), hc, hn]
  exact ⟨mul_le_mul_iff_left₀ hpos, mul_le_mul_iff_left₀ hpos⟩

theorem rounding_eq (m : Nat) (e scale : Int) : rounding m e scale =
    (⟨4 * m * ((powersOf 2 (e - 2)).1 * (powersOf 10 scale).2),
      (4 * m - quartersDown m e) * ((powersOf 2 (e - 2)).1 * (powersOf 10 scale).2),
      (4 * m + 2) * ((powersOf 2 (e - 2)).1 * (powersOf 10 scale).2), m % 2 == 0⟩,
      (powersOf 10 scale).1 * (powersOf 2 (e - 2)).2) := rfl

theorem isWithin_of_contains {m n : Nat} {e scale : Int} (hm : 0 < m)
    (h : (rounding m e scale).1.contains (n * (rounding m e scale).2)) : IsWithin m e (n * 10 ^ scale) := by
  have hlow := count_le_iff e scale (4 * m - quartersDown m e) n
  have hhigh := count_le_iff e scale (4 * m + 2) n
  have hdown : quartersDown m e ≤ 4 * m := by
    unfold quartersDown
    split <;> omega
  push_cast [hdown] at hlow hhigh
  rw [rounding_eq, Rounding.contains] at h
  simp only at h
  have hfour := two_zpow_eq e
  have hlow' : ((4 * m - quartersDown m e) * 2 ^ (e - 2) : ℚ) = m * 2 ^ e - quartersDown m e * 2 ^ (e - 2) := by
    rw [hfour]
    ring
  have hhigh' : ((4 * m + 2) * 2 ^ (e - 2) : ℚ) = m * 2 ^ e + 2 * 2 ^ (e - 2) := by
    rw [hfour]
    ring
  rw [hlow'] at hlow
  rw [hhigh'] at hhigh
  by_cases heven : m % 2 = 0
  · simp only [heven, beq_self_eq_true, if_true, Bool.and_eq_true, decide_eq_true_eq] at h
    exact ⟨hlow.1.1 h.1, hhigh.2.1 h.2, fun _ => heven⟩
  · have hodd : (m % 2 == 0) = false := beq_false_of_ne heven
    simp only [hodd, Bool.false_eq_true, if_false, Bool.and_eq_true, decide_eq_true_eq] at h
    refine ⟨hlow.1.1 h.1.le, hhigh.2.1 h.2.le, fun hends => ?_⟩
    obtain hend | hend := hends
    · exact absurd (hlow.2.2 hend.le) (Nat.not_le.2 h.1)
    · exact absurd (hhigh.1.2 hend.ge) (Nat.not_le.2 h.2)

theorem rounding_between {m : Nat} (hm : 0 < m) (e scale : Int) :
    (rounding m e scale).1.low < (rounding m e scale).1.value ∧
      (rounding m e scale).1.value < (rounding m e scale).1.high := by
  have hunit : 0 < (powersOf 2 (e - 2)).1 * (powersOf 10 scale).2 :=
    Nat.mul_pos (Nat.pow_pos (by decide)) (powersOf_pos (by decide) _)
  have hdown := quartersDown_pos m e
  rw [rounding_eq]
  exact ⟨Nat.mul_lt_mul_of_pos_right (by omega) hunit, Nat.mul_lt_mul_of_pos_right (by omega) hunit⟩

/-- A multiple of a power of two has as many places after its point as that power. -/
theorem step_dvd_value (m : Nat) {e : Int} {places : Nat} (he : -places ≤ e) :
    (rounding m e (-places)).2 ∣ (rounding m e (-places)).1.value := by
  have hten : (powersOf 10 (-places)).1 = 1 ∧ (powersOf 10 (-places)).2 = 2 ^ places * 5 ^ places := by
    rw [← Nat.mul_pow]
    simp [powersOf]
  have hhalf : (powersOf 2 (e - 2)).2 ∣ 2 ^ (places + 2) := by
    exact Nat.pow_dvd_pow 2 (by omega)
  change (powersOf 10 (-places)).1 * (powersOf 2 (e - 2)).2 ∣
    4 * m * ((powersOf 2 (e - 2)).1 * (powersOf 10 (-places)).2)
  rw [hten.1, hten.2, one_mul]
  refine hhalf.trans ⟨m * (powersOf 2 (e - 2)).1 * 5 ^ places, ?_⟩
  rw [Nat.pow_add]
  ring

theorem exists_shortestFrom {m : Nat} (hm : 0 < m) {e : Int} {places : Nat} (he : -places ≤ e) (tieUp : Bool)
    {tries : Nat} {scale : Int} (hscale : -places ≤ scale) (htries : scale + places < tries) :
    ∃ n k, shortestFrom tieUp m e tries scale = ⟨n, k⟩ ∧ 0 < n ∧ IsWithin m e (n * 10 ^ k) := by
  induction tries generalizing scale with
  | zero => omega
  | succ tries ih =>
    rw [shortestFrom]
    cases hn : (rounding m e scale).1.multiple? tieUp (rounding m e scale).2 with
    | some n =>
      obtain ⟨hpos, hcontains⟩ := Rounding.contains_of_multiple? hn
      exact ⟨n, scale, by simp only [hn], hpos, isWithin_of_contains hm hcontains⟩
    | none =>
      have hne : scale ≠ -places := by
        rintro rfl
        obtain ⟨hlow, hhigh⟩ := rounding_between hm e (-places)
        obtain ⟨n, hn'⟩ := Rounding.exists_multiple? hlow hhigh (step_dvd_value m he) tieUp
        rw [hn] at hn'
        cases hn'
      have hnext : -places ≤ scale - 1 := by omega
      obtain ⟨n, k, hk, hspec⟩ := ih hnext (by omega)
      exact ⟨n, k, by simp only [hn, hk], hspec⟩

theorem isWithin_shortest {m : Nat} (hm : 0 < m) {e : Int} (he : -1074 ≤ e) (tieUp : Bool) :
    0 < (shortest tieUp m e).coefficient ∧ IsWithin m e (shortest tieUp m e).value := by
  rw [shortest]
  simp only [if_neg hm.ne']
  generalize (Nat.toDigits 10 (m * (powersOf 2 e).1 / (powersOf 2 e).2)).length = start
  have hleast : -((1074 : ℕ) : Int) ≤ e := he
  have hstart : -((1074 : ℕ) : Int) ≤ start := by omega
  have htries : (start : Int) + (1074 : ℕ) < (start + 1076 : ℕ) := by omega
  obtain ⟨n, k, hk, hn, hwithin⟩ := exists_shortestFrom hm hleast tieUp hstart htries
  rw [hk]
  exact ⟨hn, hwithin⟩

end Decimal

/-- The text of a finite double is a numeral that it is nearest to, with its sign. -/
theorem exists_numeral_of_isFinite {x : Float} (h : x.isFinite) :
    ∃ n : Numeral, n.bytes = utf8Bytes (Json.numberText x) ∧ n.negative = signBit x ∧ IsNearest x n.value := by
  obtain ⟨m, e, hof, hx⟩ := ofFloat_of_isFinite h
  let d := Decimal.shortest Json.numberManner.tieUp m e
  have htext : Json.numberText x = Binary.signed (signBit x) (d.text Json.numberManner) := by
    rw [Json.numberText, if_pos h, shortestText, hof]
    rfl
  by_cases hm : m = 0
  · have hd : d = ⟨0, 0⟩ := if_pos hm
    obtain ⟨n, hn⟩ := Decimal.exists_numeral (d := d) (fun _ => by rw [hd]) (signBit x)
    refine ⟨n, by rw [htext, hn.bytes_eq], hn.sign, ?_⟩
    have hvalue : n.value = rational x := by
      rw [hn.value_eq, hx.rational_eq, hd, hm]
      simp [Decimal.value]
    rw [hvalue]
    exact isNearest_self h
  · obtain ⟨hc, hwithin⟩ := Decimal.isWithin_shortest (Nat.pos_of_ne_zero hm) hx.canonical.least Json.numberManner.tieUp
    obtain ⟨n, hn⟩ := Decimal.exists_numeral (d := d) (fun h0 => absurd h0 hc.ne') (signBit x)
    refine ⟨n, by rw [htext, hn.bytes_eq], hn.sign, ?_⟩
    rw [hn.value_eq]
    exact hx.isNearest (Nat.pos_of_ne_zero hm) hwithin

end CodecBench
