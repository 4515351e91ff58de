import CodecBench.Proofs.Reading
/-!
Numerals are read part by part. Each part ends at the first byte that cannot belong to it, which is the first of the
next part or of what follows the numeral (`exists_read_parts`).
-/

namespace CodecBench
namespace Reader

theorem isDigit_digitByte (d : Fin 10) : isDigit (digitByte d) = true := by
  revert d
  decide

theorem digitValue_digitByte (d : Fin 10) : digitValue (digitByte d) = d.val := by
  revert d
  decide

theorem digitByte_eq_zero_iff {d : Fin 10} : digitByte d = ascii '0' ↔ d = 0 := by
  revert d
  decide

theorem digitByte_ne_minus (d : Fin 10) : digitByte d ≠ ascii '-' := by
  revert d
  decide

theorem digitsValue_map_digitByte (ds : List (Fin 10)) : digitsValue (ds.map digitByte) = ofDecimalDigits ds := by
  rw [digitsValue, ofDecimalDigits, List.foldl_map]
  simp only [digitValue_digitByte]

theorem map_digitValue_map_digitByte (ds : List (Fin 10)) :
    (ds.map digitByte).map digitValue = ds.map (·.val) := by
  rw [List.map_map]
  exact List.map_congr_left fun d _ => digitValue_digitByte d

def NoDigit (s : Bytes) : Prop := ∀ b ∈ s.head?, isDigit b = false

theorem read_takeWhile_isDigit {ds : List (Fin 10)} {s : Bytes} (hs : NoDigit s) :
    (takeWhile isDigit).read (ds.map digitByte ++ s) = .ok (ds.map digitByte, s) := by
  have hds : ∀ b ∈ ds.map digitByte, isDigit b = true := by
    simp [isDigit_digitByte]
  have hrest : s.takeWhile isDigit = [] ∧ s.dropWhile isDigit = s := by
    cases s with
    | nil => exact ⟨rfl, rfl⟩
    | cons b s =>
      have hb : ¬ isDigit b := by simp [hs b rfl]
      exact ⟨List.takeWhile_cons_of_neg hb, List.dropWhile_cons_of_neg hb⟩
  rw [read_takeWhile, List.takeWhile_append_of_pos hds, List.dropWhile_append_of_pos hds, hrest.1, hrest.2,
    List.append_nil]

theorem read_digits {ds : List (Fin 10)} {s : Bytes} (hds : ds ≠ []) (hs : NoDigit s) (atEnd : Flaw) :
    (digits atEnd).read (ds.map digitByte ++ s) = .ok (ds.map digitByte, s) := by
  rw [digits, read_bind, read_takeWhile_isDigit hs]
  simp [hds, read_pure]

theorem read_optionally_of_mem {b : UInt8} {bs : Bytes} (h : b ∈ bs) (s : Bytes) :
    (optionally bs).read (b :: s) = .ok (true, s) := by
  have hp : peek?.read (b :: s) = .ok (some b, b :: s) := rfl
  rw [optionally, read_bind, hp]
  simp only [if_pos h]
  rfl

theorem read_optionally_of_notMem {bs s : Bytes} (h : ∀ b ∈ s.head?, b ∉ bs) :
    (optionally bs).read s = .ok (false, s) := by
  have hp : peek?.read s = .ok (s.head?, s) := rfl
  rw [optionally, read_bind, hp]
  cases s with
  | nil => rfl
  | cons b s =>
    simp only [List.head?_cons, if_neg (h b rfl)]
    rfl

theorem head_digits {ds : List (Fin 10)} {s : Bytes} {c : Char} (hds : ds ≠ []) (hc : isDigit (ascii c) = false) :
    ∀ b ∈ (ds.map digitByte ++ s).head?, b ∉ [ascii c] := by
  intro b hb
  obtain ⟨d, ds, rfl⟩ := List.exists_cons_of_ne_nil hds
  obtain rfl := Option.some.inj hb
  intro h
  rw [List.mem_singleton] at h
  rw [← h, isDigit_digitByte] at hc
  cases hc

section Parts
variable (n : Numeral) {s : Bytes}

theorem noDigit_of_ends (hs : Ends s) : NoDigit s := fun b hb => (hs b hb).1

theorem head_powerBytes (hs : Ends s) :
    ∀ b ∈ (n.powerBytes ++ s).head?, isDigit b = false ∧ b ∉ [ascii '.'] := by
  intro b hb
  unfold Numeral.powerBytes at hb
  cases hp : n.power with
  | none =>
    simp only [hp, List.nil_append] at hb
    exact ⟨(hs b hb).1, fun h => (hs b hb).2 (by simp_all)⟩
  | some p =>
    simp only [hp, NumeralPower.bytes, List.cons_append, List.head?_cons, Option.mem_some_iff] at hb
    subst hb
    cases p.capital <;> decide

theorem noDigit_placesBytes (hs : Ends s) : NoDigit (n.placesBytes ++ (n.powerBytes ++ s)) := by
  intro b hb
  unfold Numeral.placesBytes at hb
  split at hb
  · exact (head_powerBytes n hs b hb).1
  · obtain rfl := Option.some.inj hb
    decide

theorem read_exponent (hs : Ends s) (atEnd : Flaw) :
    (exponent atEnd).read (n.powerBytes ++ s) = .ok (n.exponent, s) := by
  cases hp : n.power with
  | none =>
    have hmark : ∀ b ∈ s.head?, b ∉ [ascii 'e', ascii 'E'] := fun b hb h => (hs b hb).2 (by simp_all)
    simp only [Numeral.powerBytes, Numeral.exponent, hp, List.nil_append]
    rw [exponent, read_bind, read_optionally_of_notMem hmark]
    rfl
  | some p =>
    have hmark : (if p.capital then ascii 'E' else ascii 'e') ∈ [ascii 'e', ascii 'E'] := by
      cases p.capital <;> decide
    have hdigits := read_digits p.digits_ne (noDigit_of_ends hs) atEnd
    have hminus := head_digits p.digits_ne (s := s) (c := '-') (by decide)
    have hplus := head_digits p.digits_ne (s := s) (c := '+') (by decide)
    simp only [Numeral.powerBytes, Numeral.exponent, hp, NumeralPower.bytes, List.cons_append, List.append_assoc]
    rw [exponent, read_bind, read_optionally_of_mem hmark]
    -- The sign is told before the digits; plus changes nothing.
    obtain hsign | hsign | hsign : p.sign = some true ∨ p.sign = some false ∨ p.sign = none := by
      cases p.sign with
      | none => exact .inr (.inr rfl)
      | some minus => cases minus <;> simp
    · simp [NumeralPower.signBytes, NumeralPower.exponent, hsign, read_bind, read_map,
        read_optionally_of_mem (List.mem_singleton_self (ascii '-')), hdigits, digitsValue_map_digitByte]
    · have hm : ∀ b ∈ (ascii '+' :: (p.digits.map digitByte ++ s)).head?, b ∉ [ascii '-'] := by
        intro b hb
        obtain rfl := Option.some.inj hb
        decide
      simp [NumeralPower.signBytes, NumeralPower.exponent, hsign, read_bind, read_map,
        read_optionally_of_notMem hm, read_optionally_of_mem (List.mem_singleton_self (ascii '+')), hdigits,
        digitsValue_map_digitByte]
    · simp [NumeralPower.signBytes, NumeralPower.exponent, hsign, read_bind, read_map,
        read_optionally_of_notMem hminus, read_optionally_of_notMem hplus, hdigits, digitsValue_map_digitByte]

theorem read_fraction (hs : Ends s) (atEnd : Flaw) :
    (fraction atEnd).read (n.placesBytes ++ (n.powerBytes ++ s)) =
      .ok (n.places.map digitByte, n.powerBytes ++ s) := by
  have hnext := head_powerBytes n hs
  rw [fraction, read_bind, Numeral.placesBytes]
  by_cases hp : n.places = []
  · rw [if_pos hp, List.nil_append, read_optionally_of_notMem fun b hb => (hnext b hb).2, hp]
    rfl
  · rw [if_neg hp, List.cons_append, read_optionally_of_mem (by simp)]
    exact read_digits hp (fun b hb => (hnext b hb).1) atEnd

theorem not_leading_zero :
    ¬ ((n.whole.map digitByte).head? = some (ascii '0') ∧ n.whole.map digitByte ≠ [ascii '0']) := by
  intro h
  obtain ⟨hh, hne⟩ := h
  rw [List.head?_map, Option.map_eq_some_iff] at hh
  obtain ⟨d, hd, hz⟩ := hh
  rw [digitByte_eq_zero_iff.1 hz] at hd
  exact hne (by rw [n.zero_alone hd]; decide)

theorem read_whole_minus (hs : NoDigit s) (atEnd : Flaw) :
    (whole atEnd (ascii '-')).read (n.whole.map digitByte ++ s) = .ok (n.whole.map digitByte, s) := by
  rw [whole, if_pos rfl, read_bind, read_digits n.whole_ne hs]
  simp only [if_neg (not_leading_zero n)]
  rfl

theorem read_whole_digit {d : Fin 10} {ds : List (Fin 10)} (hn : n.whole = d :: ds) (hs : NoDigit s) (atEnd : Flaw) :
    (whole atEnd (digitByte d)).read (ds.map digitByte ++ s) = .ok (n.whole.map digitByte, s) := by
  have hzero := not_leading_zero n
  rw [hn, List.map_cons] at hzero ⊢
  rw [whole, if_neg (digitByte_ne_minus d), read_bind, read_map, read_takeWhile_isDigit hs]
  simp only [if_neg hzero]
  rfl

/-- A numeral is read part by part from its first byte on, which shows its sign. -/
theorem exists_read_parts : ∃ b bs, n.bytes = b :: bs ∧ startsNumber b ∧ (b = ascii '-' ↔ n.negative) ∧
    ∀ {β : Type} (f : Bytes → Bytes → Int → Reader β) atEnd s, Ends s →
      (do
        let ds ← whole atEnd b
        let places ← fraction atEnd
        let power ← exponent atEnd
        f ds places power).read (bs ++ s) = (f (n.whole.map digitByte) (n.places.map digitByte) n.exponent).read s := by
  have hparts : ∀ {b bs}, (∀ atEnd s, NoDigit s → (whole atEnd b).read (bs ++ s) = .ok (n.whole.map digitByte, s)) →
      ∀ {β : Type} (f : Bytes → Bytes → Int → Reader β) atEnd s, Ends s →
        (do
          let ds ← whole atEnd b
          let places ← fraction atEnd
          let power ← exponent atEnd
          f ds places power).read (bs ++ (n.placesBytes ++ n.powerBytes) ++ s) =
          (f (n.whole.map digitByte) (n.places.map digitByte) n.exponent).read s := by
    intro b bs hw β f atEnd s hs
    rw [List.append_assoc, List.append_assoc, read_bind, hw atEnd _ (noDigit_placesBytes n hs)]
    simp only [read_bind, read_fraction n hs, read_exponent n hs]
  cases hneg : n.negative with
  | true =>
    exact ⟨ascii '-', n.whole.map digitByte ++ (n.placesBytes ++ n.powerBytes), by simp [Numeral.bytes, hneg],
      by decide, by simp, hparts fun atEnd s hs => read_whole_minus n hs atEnd⟩
  | false =>
    obtain ⟨d, ds, hd⟩ := List.exists_cons_of_ne_nil n.whole_ne
    refine ⟨digitByte d, ds.map digitByte ++ (n.placesBytes ++ n.powerBytes), by simp [Numeral.bytes, hneg, hd],
      by simp [startsNumber, isDigit_digitByte], ?_, hparts fun atEnd s hs => read_whole_digit n hd hs atEnd⟩
    simp [digitByte_ne_minus]

theorem exists_read_numeral : ∃ b bs, n.bytes = b :: bs ∧ startsNumber b ∧ (b = ascii '-' ↔ n.negative) ∧
    ∀ atEnd s, Ends s → (numeral atEnd b).read (bs ++ s) = .ok (n.decimal, s) := by
  obtain ⟨b, bs, hn, hb, hneg, hread⟩ := exists_read_parts n
  refine ⟨b, bs, hn, hb, hneg, fun atEnd s hs => ?_⟩
  rw [numeral, hread _ atEnd s hs, map_digitValue_map_digitByte, map_digitValue_map_digitByte]
  rfl

end Parts

theorem startsNumber_cases {b : UInt8} (h : startsNumber b) :
    isBlank b = false ∧ b ∉ closingBytes ∧ b ≠ ascii 'n' ∧ wordAfter? b = none := by
  have hall : ∀ n < 256, startsNumber (UInt8.ofNat n) → isBlank (UInt8.ofNat n) = false ∧
      UInt8.ofNat n ∉ closingBytes ∧ UInt8.ofNat n ≠ ascii 'n' ∧ wordAfter? (UInt8.ofNat n) = none := by
    decide +kernel
  have hb := hall b.toNat b.toNat_lt
  rw [UInt8.ofNat_toNat] at hb
  exact hb h

theorem accepts_number {x : Float} {v : List Token} (h : GivesNumber (fun n x => n.double? = some x) x v) :
    Accepts numberValue v x ∧ StartsWith (· ≠ ascii 'n') v := by
  obtain ⟨n, rfl, hx⟩ := h
  obtain ⟨b, bs, hn, hb, hneg, hread⟩ := exists_read_numeral n
  obtain ⟨hblank, hclosing, hne, -⟩ := startsNumber_cases hb
  refine ⟨⟨⟨b, bs, [], by rw [hn], hblank, hclosing⟩, ?_⟩, b, bs, [], by rw [hn], hblank, hne⟩
  rw [hn]
  refine leads_token hblank fun s hs => ?_
  have hsign : decide (b = ascii '-') = n.negative := by
    simp [hneg]
  rw [numberValue, if_pos hb, number, read_bind, hread _ _ hs]
  rw [Numeral.double?, ← hsign] at hx
  simp only [hx]

end Reader
end CodecBench
