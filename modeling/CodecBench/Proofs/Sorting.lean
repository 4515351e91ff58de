import CodecBench.Proofs.Utf8
import CodecBench.Proofs.Verdict
/-!
What a pairing holds. Each direction is sorted by the bytes of the algorithms, and measurements of one algorithm
keep their order (`IsStableSort`); so of an algorithm that is measured more than once the first encoding stands
opposite the first decoding, and so on (`Category.paired_exactly`).
-/

namespace CodecBench

/-- A list in ascending order of the bytes of its algorithms, where those of one algorithm stand as before. -/
structure IsStableSort (ms sorted : List Measurement) : Prop where
  perm : sorted.Perm ms
  ascending : sorted.Pairwise fun m n => utf8Bytes m.algorithm ≤ utf8Bytes n.algorithm
  stable : ∀ a, sorted.filter (·.algorithm = a) = ms.filter (·.algorithm = a)

theorem filter_sortByAlgorithm (ms : List Measurement) (a : String) :
    (sortByAlgorithm ms).filter (·.algorithm = a) = ms.filter (·.algorithm = a) := by
  have hsub : (ms.filter (·.algorithm = a)).Sublist (sortByAlgorithm ms) := by
    refine List.sublist_mergeSort ?_ ?_ ?_ List.filter_sublist
    · intro l m n hlm hmn
      exact decide_eq_true (String.le_trans (of_decide_eq_true hlm) (of_decide_eq_true hmn))
    · intro m n
      simpa using String.le_total m.algorithm n.algorithm
    · refine List.pairwise_of_forall_mem_list fun m hm n hn => ?_
      rw [List.mem_filter, decide_eq_true_eq] at hm hn
      exact decide_eq_true (hm.2.trans hn.2.symm ▸ String.le_refl _)
  have hf := hsub.filter (·.algorithm = a)
  simp only [List.filter_filter, Bool.and_self] at hf
  exact (hf.eq_of_length ((sortByAlgorithm_perm ms).filter _).length_eq.symm).symm

theorem isStableSort_sortByAlgorithm (ms : List Measurement) : IsStableSort ms (sortByAlgorithm ms) :=
  ⟨sortByAlgorithm_perm ms, (pairwise_sortByAlgorithm ms).imp utf8Bytes_le_iff.2, filter_sortByAlgorithm ms⟩

theorem IsStableSort.eq_sortByAlgorithm {ms sorted : List Measurement} (h : IsStableSort ms sorted) :
    sorted = sortByAlgorithm ms := by
  refine eq_of_pairwise_key (fun _ _ => String.le_antisymm) (h.ascending.imp utf8Bytes_le_iff.1)
    (pairwise_sortByAlgorithm ms) fun a => ?_
  rw [filter_sortByAlgorithm, h.stable]

theorem filter_zip_algorithm {es ds : List Measurement} (h : es.map (·.algorithm) = ds.map (·.algorithm))
    (a : String) :
    (es.zip ds).filter (fun x => x.1.algorithm = a) =
      (es.filter (·.algorithm = a)).zip (ds.filter (·.algorithm = a)) := by
  induction es generalizing ds with
  | nil => simp
  | cons e es ih =>
    cases ds with
    | nil => simp
    | cons d ds =>
      obtain ⟨ha, hs⟩ := List.cons.inj h
      by_cases he : e.algorithm = a
      · simp [he, ← ha, ih hs]
      · simp [he, ← ha, ih hs]

namespace Category

theorem matched_iff_shared {c : Category} :
    c.Matched ↔ (c.encode.map (·.algorithm)).Perm (c.decode.map (·.algorithm)) ∧
      ∀ m ∈ c.all, ∀ n ∈ c.all, m.label = n.label ∧ m.timeUnit = n.timeUnit ∧ m.category = n.category := by
  have ht : ∀ m n, Terms.ofMeasurement m = Terms.ofMeasurement n ↔
      m.label = n.label ∧ m.timeUnit = n.timeUnit ∧ m.category = n.category := fun _ _ =>
    Terms.ofMeasurement_eq_iff
  simp only [← ht]
  exact ⟨fun h => ⟨h.algorithms, h.terms⟩, fun h => ⟨h.1, h.2⟩⟩

/-- A category can be paired exactly if both directions have the same algorithms and all its measurements share
label, unit and category. The pairing then holds both directions in their stable order, position by position of
one algorithm. -/
theorem paired_exactly (c : Category) :
    ((∃ p, c.pair = .ok p) ↔ (c.encode.map (·.algorithm)).Perm (c.decode.map (·.algorithm)) ∧
      ∀ m ∈ c.all, ∀ n ∈ c.all, m.label = n.label ∧ m.timeUnit = n.timeUnit ∧ m.category = n.category) ∧
    ∀ p, c.pair = .ok p →
      IsStableSort c.encode p.encode ∧ IsStableSort c.decode p.decode ∧
      p.encode.map (·.algorithm) = p.algorithms ∧ p.decode.map (·.algorithm) = p.algorithms ∧
      (∀ a, p.pairs.filter (fun x => x.1.algorithm = a) =
        (c.encode.filter (·.algorithm = a)).zip (c.decode.filter (·.algorithm = a))) ∧
      (∀ m ∈ c.all, m.label = p.label ∧ m.timeUnit = p.timeUnit) ∧
      (c.all = [] → p.label = none ∧ p.timeUnit = "") ∧ p.category = c.name := by
  refine ⟨?_, fun p h => ?_⟩
  · rw [show (∃ p, c.pair = .ok p) ↔ c.Matched by simp [pair_eq_ok_iff], matched_iff_shared]
  · obtain ⟨hm, rfl⟩ := pair_eq_ok_iff.1 h
    have ha : c.paired.encode.map (·.algorithm) = c.paired.decode.map (·.algorithm) :=
      map_algorithm_sort_eq_iff.2 hm.algorithms
    refine ⟨isStableSort_sortByAlgorithm _, isStableSort_sortByAlgorithm _, rfl, ha.symm, fun a => ?_,
      fun m hmem => ?_, fun he => ?_, rfl⟩
    · rw [Pairing.pairs, filter_zip_algorithm ha]
      exact congrArg₂ List.zip (filter_sortByAlgorithm c.encode a) (filter_sortByAlgorithm c.decode a)
    · have ht := (matched_iff.1 hm).2 m hmem
      exact ⟨congrArg Terms.label ht, congrArg Terms.timeUnit ht⟩
    · obtain ⟨he, -⟩ := List.append_eq_nil_iff.1 he
      simp [paired, terms, he, sortByAlgorithm, Terms.ofList]

/-- One algorithm twice in each direction, between another one whose name is beyond ASCII. -/
theorem paired_exactly_twice :
    let m (kind : Kind) (algorithm : String) (t : Float) : Measurement := ⟨"a", kind, algorithm, t, "ns", none⟩
    let c : Category := ⟨"a", [m .encode "é" 1.0, m .encode "Z" 2.0, m .encode "Z" 3.0],
      [m .decode "Z" 4.0, m .decode "é" 5.0, m .decode "Z" 6.0]⟩
    ∃ p, c.pair = .ok p ∧ IsStableSort c.encode p.encode ∧ p.timeUnit = "ns" ∧
      p.pairs.filter (fun x => x.1.algorithm = "Z") =
        [(m .encode "Z" 2.0, m .decode "Z" 4.0), (m .encode "Z" 3.0, m .decode "Z" 6.0)] := by
  intro m c
  obtain ⟨hiff, hall⟩ := paired_exactly c
  obtain ⟨p, hp⟩ := hiff.2 ⟨by decide, by decide⟩
  obtain ⟨he, -, -, -, hz, ht, -, -⟩ := hall p hp
  have hunit : "ns" = p.timeUnit := (ht (m .encode "Z" 2.0) (by simp [c, all])).2
  exact ⟨p, hp, he, hunit.symm, (hz "Z").trans (by simp [c, m])⟩

end Category
end CodecBench
