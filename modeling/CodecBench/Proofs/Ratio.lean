import CodecBench.Ratio
/-!
Ratios exist exactly where the baseline does: an empty list needs none, any other list has ratios if
the algorithm asked for is among its own.
-/

namespace CodecBench
namespace Baseline

/-- Whether the baseline is found in measurements. The first one is there if any is. -/
def OccursIn (b : Baseline) (ms : List Measurement) : Prop :=
  ∀ a, b = .named a → a ∈ ms.map (·.algorithm)

@[simp] theorem occursIn_first (ms : List Measurement) : Baseline.first.OccursIn ms := by
  simp [OccursIn]

@[simp] theorem occursIn_named {a : String} {ms : List Measurement} :
    (Baseline.named a).OccursIn ms ↔ a ∈ ms.map (·.algorithm) := by
  simp [OccursIn]

instance (b : Baseline) (ms : List Measurement) : Decidable (b.OccursIn ms) :=
  match b with
  | .first => isTrue (occursIn_first ms)
  | .named _ => decidable_of_iff _ occursIn_named.symm

theorem lt_length_of_position? {b : Baseline} {ms : List Measurement} {i : Nat}
    (h : b.position? ms = some i) : i < ms.length := by
  cases b with
  | first =>
    obtain ⟨hms, rfl⟩ : ms ≠ [] ∧ 0 = i := by simpa [position?] using h
    exact List.length_pos_iff.2 hms
  | named a => exact (List.findIdx?_eq_some_iff_findIdx_eq.1 h).1

theorem algorithm_of_position? {a : String} {ms : List Measurement} {i : Nat} {m : Measurement}
    (h : (Baseline.named a).position? ms = some i) (hm : ms[i]? = some m) : m.algorithm = a := by
  obtain ⟨hi, ha, -⟩ := List.findIdx?_eq_some_iff_getElem.1 h
  obtain ⟨-, rfl⟩ := List.getElem?_eq_some_iff.1 hm
  simpa using ha

theorem exists_position?_iff {b : Baseline} {ms : List Measurement} (h : ms ≠ []) :
    (∃ i, b.position? ms = some i) ↔ b.OccursIn ms := by
  cases b with
  | first => simp [position?, h]
  | named a =>
    rw [← Option.isSome_iff_exists, position?, List.findIdx?_isSome, occursIn_named]
    simp

end Baseline

theorem ratios?_eq_some_iff {b : Baseline} {ms : List Measurement} (h : ms ≠ []) {rs : List Float} :
    ratios? b ms = some rs ↔
      ∃ i m, b.position? ms = some i ∧ ms[i]? = some m ∧ rs = ratiosTo i m.cpuTime ms := by
  have hms : ms.isEmpty = false := by simpa using h
  rw [ratios?, hms]
  cases hp : b.position? ms with
  | none => simp
  | some i =>
    cases hm : ms[i]? with
    | none => simp [hm]
    | some m => simp [hm, eq_comm]

theorem length_of_ratios? {b : Baseline} {ms : List Measurement} {rs : List Float}
    (h : ratios? b ms = some rs) : rs.length = ms.length := by
  by_cases hms : ms = []
  · subst hms
    have hrs : rs = [] := by simpa [ratios?, eq_comm] using h
    simp [hrs]
  · obtain ⟨i, m, -, -, rfl⟩ := (ratios?_eq_some_iff hms).1 h
    simp [ratiosTo]

theorem exists_ratios?_iff {b : Baseline} {ms : List Measurement} (h : ms ≠ []) :
    (∃ rs, ratios? b ms = some rs) ↔ b.OccursIn ms := by
  rw [← Baseline.exists_position?_iff h]
  constructor
  · intro h'
    obtain ⟨rs, hrs⟩ := h'
    obtain ⟨i, -, hi, -, -⟩ := (ratios?_eq_some_iff h).1 hrs
    exact ⟨i, hi⟩
  · intro h'
    obtain ⟨i, hi⟩ := h'
    have hlt := Baseline.lt_length_of_position? hi
    exact ⟨_, (ratios?_eq_some_iff h).2 ⟨i, ms[i], hi, List.getElem?_eq_getElem hlt, rfl⟩⟩

theorem Pairing.ratios?_eq_some_iff {p : Pairing} {b : Baseline} {rs : Ratios} :
    p.ratios? b = some rs ↔ CodecBench.ratios? b p.encode = some rs.encode ∧
      CodecBench.ratios? b p.decode = some rs.decode := by
  unfold Pairing.ratios?
  cases CodecBench.ratios? b p.encode with
  | none => simp
  | some encode =>
    cases CodecBench.ratios? b p.decode with
    | none => simp
    | some decode =>
      cases rs
      simp

theorem Pairing.exists_ratios?_iff {p : Pairing} {b : Baseline} :
    (∃ rs, p.ratios? b = some rs) ↔
      (∃ rs, CodecBench.ratios? b p.encode = some rs) ∧ ∃ rs, CodecBench.ratios? b p.decode = some rs := by
  unfold Pairing.ratios?
  cases CodecBench.ratios? b p.encode with
  | none => simp
  | some encode =>
    cases CodecBench.ratios? b p.decode with
    | none => simp
    | some decode => simp

end CodecBench
