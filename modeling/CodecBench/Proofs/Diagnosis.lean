import CodecBench.Proofs.Sorting
/-!
Why a category cannot be paired. Both directions are put into their stable order, and what is told is the first thing
that is wrong with them: their lengths, or else what is wrong at the first position that does not fit, where every
position is held against the first encoding measurement (`Category.Diagnosis`). One mismatch is told of a category
that cannot be paired, and it is that one (`Category.diagnosed_exactly`).
-/

namespace CodecBench

structure Measurement.Agrees (m first : Measurement) : Prop where
  label : m.label = first.label
  timeUnit : m.timeUnit = first.timeUnit
  category : m.category = first.category

/-- How a measurement departs from the first one, by its label before its unit and by that before its category. -/
inductive Measurement.Departs (m first : Measurement) : Mismatch → Prop where
  | label (h : m.label ≠ first.label) : Departs m first (.label m.algorithm first.label m.label)
  | timeUnit (hl : m.label = first.label) (h : m.timeUnit ≠ first.timeUnit) :
      Departs m first (.timeUnit m.algorithm first.timeUnit m.timeUnit)
  | category (hl : m.label = first.label) (hu : m.timeUnit = first.timeUnit) (h : m.category ≠ first.category) :
      Departs m first (.category m.algorithm first.category m.category)

structure Fits (first e d : Measurement) : Prop where
  algorithm : e.algorithm = d.algorithm
  encode : e.Agrees first
  decode : d.Agrees first

/-- Why two measurements at a position may not stand opposite each other, the encoding one being looked at first. -/
inductive Clashes (first : Measurement) (index : Nat) (e d : Measurement) : Mismatch → Prop where
  | algorithm (h : e.algorithm ≠ d.algorithm) : Clashes first index e d (.algorithm index e.algorithm d.algorithm)
  | encode {mismatch} (ha : e.algorithm = d.algorithm) (h : e.Departs first mismatch) :
      Clashes first index e d mismatch
  | decode {mismatch} (ha : e.algorithm = d.algorithm) (he : e.Agrees first) (h : d.Departs first mismatch) :
      Clashes first index e d mismatch

/-- The first mismatch of a category: of the lengths, or of the first position that does not fit. -/
inductive Category.Diagnosis (c : Category) : Mismatch → Prop where
  | length (h : c.encode.length ≠ c.decode.length) : Diagnosis c (.length c.encode.length c.decode.length)
  | position {es ds : List Measurement} {first e d : Measurement} {i : Nat} {mismatch : Mismatch}
      (hl : c.encode.length = c.decode.length) (hes : IsStableSort c.encode es) (hds : IsStableSort c.decode ds)
      (hfirst : es[0]? = some first) (he : es[i]? = some e) (hd : ds[i]? = some d)
      (hbefore : ∀ j < i, ∀ e d, es[j]? = some e → ds[j]? = some d → Fits first e d)
      (h : Clashes first i e d mismatch) : Diagnosis c mismatch

namespace Terms

theorem ofMeasurement_eq_iff_agrees {m first : Measurement} :
    ofMeasurement m = ofMeasurement first ↔ m.Agrees first := by
  rw [ofMeasurement_eq_iff]
  exact ⟨fun h => ⟨h.1, h.2.1, h.2.2⟩, fun h => ⟨h.label, h.timeUnit, h.category⟩⟩

theorem agrees_or_departs (m first : Measurement) : m.Agrees first ∨ ∃ mismatch, m.Departs first mismatch := by
  by_cases hl : m.label = first.label
  · by_cases hu : m.timeUnit = first.timeUnit
    · by_cases hc : m.category = first.category
      · exact .inl ⟨hl, hu, hc⟩
      · exact .inr ⟨_, .category hl hu hc⟩
    · exact .inr ⟨_, .timeUnit hl hu⟩
  · exact .inr ⟨_, .label hl⟩

theorem mismatch?_of_departs {m first : Measurement} {mismatch : Mismatch} (h : m.Departs first mismatch) :
    (ofMeasurement first).mismatch? m = some mismatch := by
  rw [mismatch?, ofMeasurement]
  cases h with
  | label h => simp [h]
  | timeUnit hl h => simp [hl, h]
  | category hl hu h => simp [hl, hu, h]

theorem fits_or_clashes (first : Measurement) (index : Nat) (e d : Measurement) :
    Fits first e d ∨ ∃ mismatch, Clashes first index e d mismatch := by
  by_cases ha : e.algorithm = d.algorithm
  · obtain he | ⟨mismatch, he⟩ := agrees_or_departs e first
    · obtain hd | ⟨mismatch, hd⟩ := agrees_or_departs d first
      · exact .inl ⟨ha, he, hd⟩
      · exact .inr ⟨mismatch, .decode ha he hd⟩
    · exact .inr ⟨mismatch, .encode ha he⟩
  · exact .inr ⟨_, .algorithm ha⟩

theorem mismatchAt?_of_clashes {first e d : Measurement} {index : Nat} {mismatch : Mismatch}
    (h : Clashes first index e d mismatch) :
    (ofMeasurement first).mismatchAt? index e d = some mismatch := by
  cases h with
  | algorithm h => simp [mismatchAt?, h]
  | encode ha h => simp [mismatchAt?, ha, mismatch?_of_departs h]
  | decode ha he h =>
    simp [mismatchAt?, ha, mismatch?_eq_none_iff.2 (ofMeasurement_eq_iff_agrees.2 he), mismatch?_of_departs h]

theorem mismatchAt?_eq_none_iff_fits {first e d : Measurement} {index : Nat} :
    (ofMeasurement first).mismatchAt? index e d = none ↔ Fits first e d := by
  rw [mismatchAt?_eq_none_iff, ofMeasurement_eq_iff_agrees, ofMeasurement_eq_iff_agrees]
  exact ⟨fun h => ⟨h.1, h.2.1, h.2.2⟩, fun h => ⟨h.algorithm, h.encode, h.decode⟩⟩

theorem mismatchAt?_eq_some_iff {first e d : Measurement} {index : Nat} {mismatch : Mismatch} :
    (ofMeasurement first).mismatchAt? index e d = some mismatch ↔ Clashes first index e d mismatch := by
  constructor
  · intro h
    obtain hf | ⟨other, hc⟩ := fits_or_clashes first index e d
    · rw [mismatchAt?_eq_none_iff_fits.2 hf] at h
      cases h
    · obtain rfl : other = mismatch := Option.some.inj ((mismatchAt?_of_clashes hc).symm.trans h)
      exact hc
  · exact mismatchAt?_of_clashes

theorem firstMismatch?_eq_some_iff {t : Terms} {index : Nat} {es ds : List Measurement} {mismatch : Mismatch} :
    t.firstMismatch? index es ds = some mismatch ↔ ∃ i e d, es[i]? = some e ∧ ds[i]? = some d ∧
      (∀ j < i, ∀ e d, es[j]? = some e → ds[j]? = some d → t.mismatchAt? (index + j) e d = none) ∧
      t.mismatchAt? (index + i) e d = some mismatch := by
  induction es generalizing index ds with
  | nil => simp [firstMismatch?]
  | cons e es ih =>
    cases ds with
    | nil => simp [firstMismatch?]
    | cons d ds =>
      have hshift : ∀ j, index + 1 + j = index + (j + 1) := fun j => by omega
      rw [firstMismatch?, Option.or_eq_some_iff, ih]
      simp only [hshift]
      constructor
      · intro h
        obtain h | ⟨hn, i, e', d', he, hd, hbefore, h⟩ := h
        · exact ⟨0, e, d, rfl, rfl, by simp, h⟩
        · refine ⟨i + 1, e', d', he, hd, fun j hj => ?_, h⟩
          cases j with
          | zero =>
            intro _ _ he hd
            cases he
            cases hd
            exact hn
          | succ j => exact hbefore j (by omega)
      · intro h
        obtain ⟨i, e', d', he, hd, hbefore, h⟩ := h
        cases i with
        | zero =>
          cases he
          cases hd
          exact .inl h
        | succ i =>
          exact .inr ⟨hbefore 0 (by omega) e d rfl rfl, i, e', d', he, hd,
            fun j hj => hbefore (j + 1) (by omega), h⟩

end Terms

namespace Category

theorem terms_eq {c : Category} {first : Measurement} (h : (sortByAlgorithm c.encode)[0]? = some first) :
    c.terms = Terms.ofMeasurement first := by
  rw [terms]
  cases hs : sortByAlgorithm c.encode with
  | nil => simp [hs] at h
  | cons m ms =>
    rw [hs] at h
    cases h
    rfl

theorem diagnosis_of_pair {c : Category} {mismatch : Mismatch} (h : c.pair = .error mismatch) :
    c.Diagnosis mismatch := by
  rw [pair_eq] at h
  simp only [length_sortByAlgorithm] at h
  by_cases hl : c.encode.length = c.decode.length
  · rw [if_neg (not_not.2 hl)] at h
    cases hf : c.terms.firstMismatch? 0 (sortByAlgorithm c.encode) (sortByAlgorithm c.decode) with
    | none => simp [hf] at h
    | some found =>
      obtain rfl : found = mismatch := by simpa [hf] using h
      obtain ⟨i, e, d, he, hd, hbefore, hat⟩ := Terms.firstMismatch?_eq_some_iff.1 hf
      have hpos : 0 < (sortByAlgorithm c.encode).length := by
        obtain ⟨hi, -⟩ := List.getElem?_eq_some_iff.1 he
        omega
      have hfirst := List.getElem?_eq_getElem hpos
      simp only [terms_eq hfirst, Terms.mismatchAt?_eq_none_iff_fits, Terms.mismatchAt?_eq_some_iff,
        Nat.zero_add] at hbefore hat
      exact .position hl (isStableSort_sortByAlgorithm _) (isStableSort_sortByAlgorithm _) hfirst he hd hbefore hat
  · rw [if_pos hl] at h
    cases h
    exact .length hl

theorem Diagnosis.pair {c : Category} {mismatch : Mismatch} (h : c.Diagnosis mismatch) :
    c.pair = .error mismatch := by
  rw [pair_eq]
  simp only [length_sortByAlgorithm]
  cases h with
  | length h => rw [if_pos h]
  | @position es ds first e d i _ hl hes hds hfirst he hd hbefore h =>
    obtain rfl := hes.eq_sortByAlgorithm
    obtain rfl := hds.eq_sortByAlgorithm
    have hf : c.terms.firstMismatch? 0 (sortByAlgorithm c.encode) (sortByAlgorithm c.decode) = some mismatch := by
      simp only [Terms.firstMismatch?_eq_some_iff, terms_eq hfirst, Terms.mismatchAt?_eq_none_iff_fits,
        Terms.mismatchAt?_eq_some_iff, Nat.zero_add]
      exact ⟨i, e, d, he, hd, hbefore, h⟩
    rw [if_neg (not_not.2 hl), hf]

theorem pair_eq_error_iff {c : Category} {mismatch : Mismatch} :
    c.pair = .error mismatch ↔ c.Diagnosis mismatch :=
  ⟨diagnosis_of_pair, Diagnosis.pair⟩

theorem diagnosis_length_iff {c : Category} {x y : Nat} :
    c.Diagnosis (.length x y) ↔
      c.encode.length ≠ c.decode.length ∧ x = c.encode.length ∧ y = c.decode.length := by
  constructor
  · intro h
    cases h with
    | length h => exact ⟨h, rfl, rfl⟩
    | position _ _ _ _ _ _ _ h =>
      cases h with
      | encode _ h => cases h
      | decode _ _ h => cases h
  · intro h
    obtain ⟨h, rfl, rfl⟩ := h
    exact .length h

theorem report_eq_mismatched_iff {b : Baseline} {c : Category} {name : String} {mismatch : Mismatch} :
    c.report b = .error (.skipped name (.mismatched mismatch)) ↔ name = c.name ∧ c.pair = .error mismatch := by
  rw [report]
  cases c.pair with
  | error found => simp [eq_comm]
  | ok p =>
    by_cases hu : p.timeUnit = reportUnit
    · cases hr : p.ratios? b with
      | none => simp [hu, hr]
      | some rs => simp [hu, hr]
    · simp [hu]

/-- A category that cannot be paired is diagnosed with its first mismatch and under its own name. -/
theorem diagnosed_exactly (c : Category) :
    (∀ mismatch, c.pair = .error mismatch ↔ c.Diagnosis mismatch) ∧
    (∀ x y, c.pair = .error (.length x y) ↔
      c.encode.length ≠ c.decode.length ∧ x = c.encode.length ∧ y = c.decode.length) ∧
    ∀ b name mismatch, c.report b = .error (.skipped name (.mismatched mismatch)) ↔
      name = c.name ∧ c.pair = .error mismatch :=
  ⟨fun _ => pair_eq_error_iff, fun _ _ => pair_eq_error_iff.trans diagnosis_length_iff,
    fun _ _ _ => report_eq_mismatched_iff⟩

/-- Of two measurements of `Y` that both depart from the first of `X`, the encoding one is told of, although the
decoding one departs by its label already. -/
theorem diagnosed_exactly_twoDepartures :
    let x (kind : Kind) : Measurement := ⟨"a", kind, "X", 1.0, "ns", none⟩
    let y : Measurement := ⟨"a", .encode, "Y", 2.0, "us", none⟩
    let y' : Measurement := ⟨"b", .decode, "Y", 3.0, "us", some "two"⟩
    let c : Category := ⟨"a", [y, x .encode], [x .decode, y']⟩
    c.pair = .error (.timeUnit "Y" "ns" "us") ∧
      c.report .first = .error (.skipped "a" (.mismatched (.timeUnit "Y" "ns" "us"))) := by
  intro x y y' c
  obtain ⟨hpair, -, hreport⟩ := diagnosed_exactly c
  have hencode : IsStableSort c.encode [x .encode, y] := by
    refine ⟨.swap .., by decide, fun a => ?_⟩
    by_cases ha : a = "X"
    · simp [c, x, y, ha]
    · have ha' : ¬ "X" = a := fun h => ha h.symm
      simp [c, x, y, ha', List.filter_cons]
  have hdecode : IsStableSort c.decode [x .decode, y'] := ⟨.refl _, by decide, fun _ => rfl⟩
  have hbefore : ∀ j < 1, ∀ e d, [x .encode, y][j]? = some e → [x .decode, y'][j]? = some d →
      Fits (x .encode) e d := by
    intro j hj e d he hd
    obtain rfl : j = 0 := by omega
    cases he
    cases hd
    exact ⟨rfl, ⟨rfl, rfl, rfl⟩, ⟨rfl, rfl, rfl⟩⟩
  have hclash : Clashes (x .encode) 1 y y' (.timeUnit "Y" "ns" "us") := .encode rfl (.timeUnit rfl (by decide))
  have h := (hpair _).2 (.position rfl hencode hdecode rfl rfl rfl hbefore hclash)
  exact ⟨h, (hreport _ _ _).2 ⟨rfl, h⟩⟩

end Category
end CodecBench
