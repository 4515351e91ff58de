import CodecBench.Json
import CodecBench.Proofs.Writing
import Mathlib.Algebra.Field.Rat
import Mathlib.Data.List.Induction
import Mathlib.Tactic.FieldSimp
import Mathlib.Tactic.Ring
/-!
The texts of decimals are numerals. A decimal is written with a point among its digits, with zeros behind them, or with
a power of ten, and each time the numeral stands for the number that the decimal is (`Decimal.exists_numeral`).
-/

namespace CodecBench

def decimalDigits (n : Nat) : List (Fin 10) :=
  if n < 10 then [Fin.ofNat 10 n] else decimalDigits (n / 10) ++ [Fin.ofNat 10 n]

def digitChars (ds : List (Fin 10)) : List Char := ds.map fun d => d.val.digitChar

theorem digitChars_nil : digitChars [] = [] := rfl

theorem digitChars_cons (d : Fin 10) (ds : List (Fin 10)) :
    digitChars (d :: ds) = d.val.digitChar :: digitChars ds := rfl

theorem toDigits_eq (n : Nat) : Nat.toDigits 10 n = digitChars (decimalDigits n) := by
  fun_induction decimalDigits n with
  | case1 n h =>
    rw [Nat.toDigits_of_lt_base h]
    simp [digitChars, Nat.mod_eq_of_lt h]
  | case2 n h ih =>
    rw [Nat.toDigits_of_base_le (by decide) (Nat.le_of_not_lt h), ih]
    simp [digitChars]

theorem ofDecimalDigits_append (ds es : List (Fin 10)) :
    ofDecimalDigits (ds ++ es) = ofDecimalDigits ds * 10 ^ es.length + ofDecimalDigits es := by
  induction es using List.reverseRecOn with
  | nil => simp [ofDecimalDigits]
  | append_singleton es e ih =>
    have hsnoc : ∀ l : List (Fin 10), ofDecimalDigits (l ++ [e]) = 10 * ofDecimalDigits l + e := fun l => by
      simp [ofDecimalDigits]
    rw [← List.append_assoc, hsnoc, hsnoc, ih, List.length_append, List.length_singleton, Nat.pow_succ]
    ring

theorem ofDecimalDigits_zeros (k : Nat) : ofDecimalDigits (List.replicate k 0) = 0 := by
  induction k with
  | zero => rfl
  | succ k ih =>
    rw [List.replicate_succ', ofDecimalDigits_append, ih]
    rfl

theorem ofDecimalDigits_decimalDigits (n : Nat) : ofDecimalDigits (decimalDigits n) = n := by
  fun_induction decimalDigits n with
  | case1 n h => simp [ofDecimalDigits, Nat.mod_eq_of_lt h]
  | case2 n h ih =>
    rw [ofDecimalDigits_append, ih]
    simp [ofDecimalDigits]
    omega

theorem decimalDigits_ne_nil (n : Nat) : decimalDigits n ≠ [] := by
  unfold decimalDigits
  split <;> simp

theorem head?_decimalDigits {n : Nat} (hn : n ≠ 0) : (decimalDigits n).head? ≠ some 0 := by
  fun_induction decimalDigits n with
  | case1 n h =>
    intro h0
    have hv := congrArg Fin.val (Option.some.inj h0)
    simp at hv
    omega
  | case2 n h ih =>
    rw [List.head?_append_of_ne_nil _ (decimalDigits_ne_nil _)]
    exact ih (by omega)

theorem zero_alone_decimalDigits (n : Nat) : (decimalDigits n).head? = some 0 → decimalDigits n = [0] := by
  intro h
  by_cases hn : n = 0
  · rw [hn, decimalDigits, if_pos (by decide)]
    rfl
  · exact absurd h (head?_decimalDigits hn)

@[simp]
theorem utf8Bytes_append (s t : String) : utf8Bytes (s ++ t) = utf8Bytes s ++ utf8Bytes t := by
  simp [utf8Bytes, String.toList_append]

theorem utf8Bytes_ofList (cs : List Char) : utf8Bytes (.ofList cs) = cs.flatMap String.utf8EncodeChar := by
  simp [utf8Bytes]

@[simp]
theorem utf8EncodeChar_digitChar (d : Fin 10) : String.utf8EncodeChar d.val.digitChar = [digitByte d] := by
  revert d
  decide

@[simp]
theorem flatMap_digitChars (ds : List (Fin 10)) :
    (digitChars ds).flatMap String.utf8EncodeChar = ds.map digitByte := by
  induction ds with
  | nil => rfl
  | cons d ds ih => simpa [digitChars] using ih

@[simp]
theorem utf8EncodeChar_point : String.utf8EncodeChar '.' = [ascii '.'] := by decide

theorem zeros_eq (k : Nat) : Decimal.zeros k = digitChars (List.replicate k 0) := by
  simp [Decimal.zeros, digitChars]

/-- A numeral that is this text, with a minus before it or not, and stands for this number, with its sign. -/
structure Numeral.Renders (n : Numeral) (negative : Bool) (body : List Char) (q : ℚ) : Prop where
  sign : n.negative = negative
  bytes_eq : n.bytes = utf8Bytes (Binary.signed negative body)
  value_eq : n.value = (if negative then -1 else 1) * q

theorem Numeral.renders {n : Numeral} {body : List Char} {c k : Nat} {e : Int}
    (hbody : body.flatMap String.utf8EncodeChar = n.whole.map digitByte ++ (n.placesBytes ++ n.powerBytes))
    (hdigits : ofDecimalDigits (n.whole ++ n.places) = c * 10 ^ k) (he : n.exponent - n.places.length + k = e) :
    n.Renders n.negative body (c * 10 ^ e) where
  sign := rfl
  bytes_eq := by
    have hminus : String.utf8EncodeChar '-' = [ascii '-'] := by decide
    rw [bytes, ← hbody, Binary.signed, utf8Bytes_ofList]
    cases n.negative <;> simp [hminus]
  value_eq := by
    rw [value, hdigits, ← he, zpow_add₀ (by norm_num), zpow_natCast, mul_assoc]
    push_cast
    ring

namespace Decimal
section Manners
variable {ds : List (Fin 10)} (hne : ds ≠ []) (hzero : ds.head? = some 0 → ds = [0])
include hne hzero

theorem withPoint_digitChars {p : Nat} (hp : 0 < p) :
    ∃ whole places, withPoint (digitChars ds) p = digitChars whole ++ '.' :: digitChars places ∧
      whole ≠ [] ∧ (whole.head? = some 0 → whole = [0]) ∧ places.length = p ∧
      ofDecimalDigits (whole ++ places) = ofDecimalDigits ds := by
  obtain ⟨k, hk⟩ : ∃ k, k = p + 1 - ds.length := ⟨_, rfl⟩
  have hpos : 0 < ds.length := List.length_pos_iff.2 hne
  have hpadded : zeros (p + 1 - (digitChars ds).length) ++ digitChars ds = digitChars (List.replicate k 0 ++ ds) := by
    simp [zeros_eq, digitChars, hk]
  have hlength : (List.replicate k 0 ++ ds).length = k + ds.length := by simp
  obtain ⟨padded, hp'⟩ : ∃ padded, padded = List.replicate k 0 ++ ds := ⟨_, rfl⟩
  rw [← hp'] at hpadded hlength
  refine ⟨padded.take (padded.length - p), padded.drop (padded.length - p), ?_, ?_, ?_, ?_, ?_⟩
  · rw [withPoint, hpadded, if_neg (by omega)]
    simp [digitChars]
  · rw [← List.length_pos_iff, List.length_take]
    omega
  · by_cases hle : ds.length ≤ p
    · -- A zero has been put before the point, and only one.
      have hone : padded.length - p = 1 := by omega
      obtain ⟨k, rfl⟩ : ∃ k', k = k' + 1 := ⟨k - 1, by omega⟩
      rw [hone, hp']
      simp [List.replicate_succ]
    · have hds : padded = ds := by
        rw [hp', show k = 0 by omega]
        rfl
      rw [hds, List.head?_take, if_neg (by omega)]
      intro h
      have hsingle := congrArg List.length (hzero h)
      rw [List.length_singleton] at hsingle
      omega
  · rw [List.length_drop]
    omega
  · rw [List.take_append_drop, hp', ofDecimalDigits_append, ofDecimalDigits_zeros]
    simp

theorem exists_pointed (negative : Bool) {p : Nat} (hp : 0 < p) :
    ∃ n : Numeral, n.Renders negative (withPoint (digitChars ds) p) (ofDecimalDigits ds * 10 ^ (-p : Int)) := by
  obtain ⟨whole, places, ht, hw, hz, hl, hv⟩ := withPoint_digitChars hne hzero hp
  have hplaces : places ≠ [] := List.ne_nil_of_length_pos (by omega)
  refine ⟨⟨negative, whole, places, none, hw, hz⟩, Numeral.renders (k := 0) ?_ (by simpa using hv) ?_⟩
  · rw [ht]
    simp [Numeral.placesBytes, Numeral.powerBytes, hplaces]
  · simp [Numeral.exponent, hl]

theorem exists_padded (negative : Bool) {k : Nat} (hk : ds = [0] → k = 0) :
    ∃ n : Numeral,
      n.Renders negative (digitChars ds ++ zeros k ++ ['.', '0']) (ofDecimalDigits ds * 10 ^ (k : Int)) := by
  have hnought : String.utf8EncodeChar '0' = [digitByte 0] := by decide
  refine ⟨⟨negative, ds ++ List.replicate k 0, [0], none, by simp [hne], ?_⟩, Numeral.renders (k := k + 1) ?_ ?_ ?_⟩
  · rw [List.head?_append_of_ne_nil _ hne]
    intro h
    rw [hk (hzero h), hzero h]
    rfl
  · simp [zeros_eq, Numeral.placesBytes, Numeral.powerBytes, hnought]
  · simp [ofDecimalDigits_append, ofDecimalDigits_zeros, pow_succ]
    rfl
  · simp [Numeral.exponent]

theorem exists_scientific (negative : Bool) (leading : Int) :
    ∃ n : Numeral, n.Renders negative (scientificText (digitChars ds) leading)
      (ofDecimalDigits ds * 10 ^ (leading - (ds.length - 1 : Int))) := by
  obtain ⟨d, ds, rfl⟩ := List.exists_cons_of_ne_nil hne
  let power : NumeralPower := ⟨false, some (decide (leading < 0)), decimalDigits leading.natAbs, decimalDigits_ne_nil _⟩
  refine ⟨⟨negative, [d], ds, some power, by simp, by simp⟩, Numeral.renders (k := 0) ?_ (by simp) ?_⟩
  · have hletter : String.utf8EncodeChar 'e' = [ascii 'e'] := by decide
    have hsign : String.utf8EncodeChar (if leading < 0 then '-' else '+') = power.signBytes := by
      by_cases h : leading < 0 <;> simp [NumeralPower.signBytes, power, h] <;> decide
    have hpower : power.bytes = ascii 'e' :: (power.signBytes ++ (decimalDigits leading.natAbs).map digitByte) := rfl
    rw [scientificText, toDigits_eq]
    cases ds with
    | nil => simp [digitChars_nil, digitChars_cons, Numeral.placesBytes, Numeral.powerBytes, hpower, hletter, hsign]
    | cons d' ds => simp [digitChars_cons, Numeral.placesBytes, Numeral.powerBytes, hpower, hletter, hsign]
  · simp only [Numeral.exponent, power, NumeralPower.exponent, ofDecimalDigits_decimalDigits, Option.some.injEq,
      decide_eq_true_eq, List.length_cons]
    split <;> omega

end Manners

theorem digits_eq (d : Decimal) :
    (if d.coefficient = 0 then ['0'] else d.digits) = digitChars (decimalDigits d.coefficient) := by
  rw [← toDigits_eq, digits]
  split
  · rename_i h
    rw [h]
    rfl
  · rfl

def value (d : Decimal) : ℚ := d.coefficient * 10 ^ d.exponent

theorem exists_numeral {d : Decimal} (hd : d.coefficient = 0 → d.exponent = 0) (negative : Bool) :
    ∃ n : Numeral, n.Renders negative (d.text Json.numberManner) d.value := by
  obtain ⟨c, e⟩ := d
  have hne := decimalDigits_ne_nil c
  have hzero := zero_alone_decimalDigits c
  have hvalue := ofDecimalDigits_decimalDigits c
  rw [text, digits_eq]
  simp only [value] at hd ⊢
  generalize decimalDigits c = ds at *
  subst hvalue
  split
  · rw [positionalText]
    split
    · rename_i he
      have hp := exists_pointed hne hzero negative (p := e.natAbs) (by omega)
      rwa [show -(e.natAbs : Int) = e by omega] at hp
    · rename_i he
      have hk : ds = [0] → e.toNat = 0 := by
        rintro rfl
        simp [hd rfl]
      have hp := exists_padded hne hzero negative hk
      rwa [Int.toNat_of_nonneg (not_lt.1 he)] at hp
  · have hs := exists_scientific hne hzero negative (((digitChars ds).length : Int) - 1 + e)
    have hl : (digitChars ds).length = ds.length := List.length_map ..
    rw [hl] at hs ⊢
    rwa [show (ds.length : Int) - 1 + e - (ds.length - 1) = e by omega] at hs

end Decimal
end CodecBench
