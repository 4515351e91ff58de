import CodecBench.Pairing
import Mathlib.Data.List.Nodup
/-!
Pairings: a category can be paired exactly if its two directions hold the same algorithms, each as
often in one as in the other, and all its measurements come on the same terms (`pair_eq_ok_iff`). The
position by position comparison of the sorted lists decides this because a list of algorithms is known
from its sorted form up to order (`map_algorithm_sort_eq_iff`).
-/

namespace CodecBench

theorem sortByAlgorithm_perm (ms : List Measurement) : (sortByAlgorithm ms).Perm ms :=
  List.mergeSort_perm _ _

theorem mem_sortByAlgorithm {ms : List Measurement} {m : Measurement} :
    m ∈ sortByAlgorithm ms ↔ m ∈ ms :=
  (sortByAlgorithm_perm ms).mem_iff

theorem length_sortByAlgorithm (ms : List Measurement) : (sortByAlgorithm ms).length = ms.length :=
  (sortByAlgorithm_perm ms).length_eq

theorem pairwise_sortByAlgorithm (ms : List Measurement) :
    (sortByAlgorithm ms).Pairwise fun m n => m.algorithm ≤ n.algorithm := by
  have h : (sortByAlgorithm ms).Pairwise fun m n => decide (m.algorithm ≤ n.algorithm) := by
    refine List.pairwise_mergeSort ?_ ?_ ms
    · intro l m n hlm hmn
      exact decide_eq_true (String.le_trans (of_decide_eq_true hlm) (of_decide_eq_true hmn))
    · intro m n
      simpa using String.le_total m.algorithm n.algorithm
  exact h.imp of_decide_eq_true

theorem map_algorithm_sort_eq_iff {es ds : List Measurement} :
    (sortByAlgorithm es).map (·.algorithm) = (sortByAlgorithm ds).map (·.algorithm) ↔
      (es.map (·.algorithm)).Perm (ds.map (·.algorithm)) := by
  have he := (sortByAlgorithm_perm es).map (·.algorithm)
  have hd := (sortByAlgorithm_perm ds).map (·.algorithm)
  constructor
  · intro h
    exact he.symm.trans (h ▸ hd)
  · intro h
    refine List.Perm.eq_of_pairwise (fun _ _ _ _ => String.le_antisymm) ?_ ?_
      (he.trans (h.trans hd.symm))
    · exact List.pairwise_map.2 (pairwise_sortByAlgorithm es)
    · exact List.pairwise_map.2 (pairwise_sortByAlgorithm ds)

theorem sortByAlgorithm_eq_of_perm {ms ns : List Measurement} (h : ms.Perm ns)
    (hd : (ms.map (·.algorithm)).Nodup) : sortByAlgorithm ms = sortByAlgorithm ns := by
  have hp : (sortByAlgorithm ms).Perm (sortByAlgorithm ns) :=
    (sortByAlgorithm_perm ms).trans (h.trans (sortByAlgorithm_perm ns).symm)
  refine hp.eq_of_pairwise (fun m n hm hn hmn hnm => ?_) (pairwise_sortByAlgorithm ms)
    (pairwise_sortByAlgorithm ns)
  exact List.inj_on_of_nodup_map hd (mem_sortByAlgorithm.1 hm)
    (h.mem_iff.2 (mem_sortByAlgorithm.1 hn)) (String.le_antisymm hmn hnm)

namespace Terms

def ofMeasurement (m : Measurement) : Terms := ⟨m.label, m.timeUnit, m.category⟩

theorem ofMeasurement_eq_iff {t : Terms} {m : Measurement} :
    ofMeasurement m = t ↔ m.label = t.label ∧ m.timeUnit = t.timeUnit ∧ m.category = t.category := by
  cases t
  simp [ofMeasurement]

theorem mismatch?_eq_none_iff {t : Terms} {m : Measurement} :
    t.mismatch? m = none ↔ ofMeasurement m = t := by
  rw [ofMeasurement_eq_iff, mismatch?]
  by_cases hl : m.label = t.label
  · by_cases hu : m.timeUnit = t.timeUnit
    · simp [hl, hu]
    · simp [hl, hu]
  · simp [hl]

theorem mismatchAt?_eq_none_iff {t : Terms} {index : Nat} {e d : Measurement} :
    t.mismatchAt? index e d = none ↔
      e.algorithm = d.algorithm ∧ ofMeasurement e = t ∧ ofMeasurement d = t := by
  rw [mismatchAt?]
  by_cases h : e.algorithm = d.algorithm
  · simp [h, mismatch?_eq_none_iff]
  · simp [h]

theorem firstMismatch?_eq_none_iff {t : Terms} {index : Nat} {es ds : List Measurement}
    (h : es.length = ds.length) :
    t.firstMismatch? index es ds = none ↔
      es.map (·.algorithm) = ds.map (·.algorithm) ∧ ∀ m ∈ es ++ ds, ofMeasurement m = t := by
  induction es generalizing index ds with
  | nil =>
    have hds : ds = [] := List.length_eq_zero_iff.1 h.symm
    simp [hds, firstMismatch?]
  | cons e es ih =>
    cases ds with
    | nil => simp at h
    | cons d ds =>
      rw [firstMismatch?, Option.or_eq_none_iff, mismatchAt?_eq_none_iff, ih (by simpa using h)]
      simp only [List.map_cons, List.cons.injEq, List.mem_append, List.mem_cons]
      constructor
      · intro h'
        obtain ⟨⟨ha, he, hd⟩, has, hms⟩ := h'
        refine ⟨⟨ha, has⟩, fun m hm => ?_⟩
        rcases hm with (rfl | hm) | rfl | hm
        · exact he
        · exact hms m (.inl hm)
        · exact hd
        · exact hms m (.inr hm)
      · intro h'
        obtain ⟨⟨ha, has⟩, hms⟩ := h'
        exact ⟨⟨ha, hms e (.inl (.inl rfl)), hms d (.inr (.inl rfl))⟩, has,
          fun m hm => hms m (hm.imp .inr .inr)⟩

end Terms

namespace Category

def terms (c : Category) : Terms := .ofList c.name (sortByAlgorithm c.encode)

def paired (c : Category) : Pairing :=
  ⟨c.name, c.terms.label, c.terms.timeUnit, (sortByAlgorithm c.encode).map (·.algorithm),
    sortByAlgorithm c.encode, sortByAlgorithm c.decode⟩

/-- Both directions hold the same algorithms and all measurements come on the same terms. -/
structure Matched (c : Category) : Prop where
  algorithms : (c.encode.map (·.algorithm)).Perm (c.decode.map (·.algorithm))
  terms : ∀ m ∈ c.encode ++ c.decode, ∀ n ∈ c.encode ++ c.decode,
    Terms.ofMeasurement m = Terms.ofMeasurement n

theorem Matched.decode_eq_nil {c : Category} (h : c.Matched) (he : c.encode = []) :
    c.decode = [] := by
  have hl := h.algorithms.length_eq
  simpa [he, eq_comm] using hl

theorem exists_ofMeasurement_eq_terms {c : Category} (h : c.encode ≠ []) :
    ∃ m ∈ c.encode, Terms.ofMeasurement m = c.terms := by
  unfold terms
  cases hs : sortByAlgorithm c.encode with
  | nil =>
    have hl := length_sortByAlgorithm c.encode
    rw [hs, List.length_nil, eq_comm, List.length_eq_zero_iff] at hl
    exact absurd hl h
  | cons m ms => exact ⟨m, mem_sortByAlgorithm.1 (by simp [hs]), rfl⟩

theorem matched_iff {c : Category} :
    c.Matched ↔ (c.encode.map (·.algorithm)).Perm (c.decode.map (·.algorithm)) ∧
      ∀ m ∈ c.encode ++ c.decode, Terms.ofMeasurement m = c.terms := by
  constructor
  · intro h
    refine ⟨h.algorithms, fun m hm => ?_⟩
    by_cases he : c.encode = []
    · simp [he, h.decode_eq_nil he] at hm
    · obtain ⟨n, hn, ht⟩ := exists_ofMeasurement_eq_terms he
      exact (h.terms m hm n (by simp [hn])).trans ht
  · intro h'
    obtain ⟨ha, ht⟩ := h'
    exact ⟨ha, fun m hm n hn => (ht m hm).trans (ht n hn).symm⟩

theorem matched_iff_firstMismatch? {c : Category} :
    c.Matched ↔ (sortByAlgorithm c.encode).length = (sortByAlgorithm c.decode).length ∧
      c.terms.firstMismatch? 0 (sortByAlgorithm c.encode) (sortByAlgorithm c.decode) = none := by
  rw [matched_iff, ← map_algorithm_sort_eq_iff]
  constructor
  · intro h
    obtain ⟨ha, ht⟩ := h
    have hl : (sortByAlgorithm c.encode).length = (sortByAlgorithm c.decode).length := by
      simpa using congrArg List.length ha
    exact ⟨hl, (Terms.firstMismatch?_eq_none_iff hl).2 ⟨ha, by simpa [mem_sortByAlgorithm] using ht⟩⟩
  · intro h
    obtain ⟨hl, hf⟩ := h
    obtain ⟨ha, ht⟩ := (Terms.firstMismatch?_eq_none_iff hl).1 hf
    exact ⟨ha, by simpa [mem_sortByAlgorithm] using ht⟩

theorem pair_eq (c : Category) :
    c.pair =
      if (sortByAlgorithm c.encode).length ≠ (sortByAlgorithm c.decode).length then
        .error (.length (sortByAlgorithm c.encode).length (sortByAlgorithm c.decode).length)
      else
        match c.terms.firstMismatch? 0 (sortByAlgorithm c.encode) (sortByAlgorithm c.decode) with
        | some mismatch => .error mismatch
        | none => .ok c.paired := rfl

theorem pair_eq_ok_iff {c : Category} {p : Pairing} :
    c.pair = .ok p ↔ c.Matched ∧ p = c.paired := by
  rw [matched_iff_firstMismatch?, pair_eq]
  by_cases hl : (sortByAlgorithm c.encode).length = (sortByAlgorithm c.decode).length
  · cases hf : c.terms.firstMismatch? 0 (sortByAlgorithm c.encode) (sortByAlgorithm c.decode) with
    | none => simp [hl, eq_comm]
    | some mismatch => simp [hl]
  · simp [hl]

end Category
end CodecBench
