import CodecBench.Proofs.Standing
import CodecBench.Proofs.Verdict
/-!
The overall standings of a report are made from its category reports and from nothing else: one standing for
each of their algorithms, with the mean over its measurements in each direction whose ratio is not zero
(`Report.overall_exactly`). Each direction of a category report holds the measurements of the first input in
sorted order, with their ratios to its own baseline (`Report.side_of_mem`).
-/

namespace CodecBench
namespace CategoryReport

def side (c : CategoryReport) : Kind → List (Measurement × Float)
  | .encode => c.pairing.encode.zip c.ratios.encode
  | .decode => c.pairing.decode.zip c.ratios.decode
  | .other _ => []

/-- The times and ratios of an algorithm in one direction, without ratios of zero. -/
def counted (cs : List CategoryReport) (kind : Kind) (a : String) : List (Float × Float) :=
  ((cs.flatMap (·.side kind)).filter fun x => x.1.algorithm = a ∧ (x.2 == 0.0) = false).map
    fun x => (x.1.cpuTime, x.2)

theorem counted_samples (c : CategoryReport) {kind : Kind} (hk : kind.isMeasured) (a : String) :
    Sample.counted kind (c.samples.filter fun x => x.algorithm = a) = counted [c] kind a := by
  cases kind with
  | encode =>
    simp [Sample.counted, samples, Pairing.samples, counted, side, List.filter_map, List.filter_filter,
      Function.comp_def, Bool.and_comm]
  | decode =>
    simp [Sample.counted, samples, Pairing.samples, counted, side, List.filter_map, List.filter_filter,
      Function.comp_def, Bool.and_comm]
  | other tag => simp [Kind.isMeasured] at hk

theorem counted_flatMap_samples (cs : List CategoryReport) {kind : Kind} (hk : kind.isMeasured)
    (a : String) :
    Sample.counted kind ((cs.flatMap (·.samples)).filter fun x => x.algorithm = a) =
      counted cs kind a := by
  have h : ∀ c ∈ cs, Sample.counted kind (c.samples.filter fun x => x.algorithm = a) =
      counted [c] kind a := fun c _ => counted_samples c hk a
  simp only [Sample.counted, counted, List.flatMap_singleton, List.filter_flatMap, List.map_flatMap]
    at h ⊢
  exact List.flatMap_congr h

theorem filter_measured_samples (cs : List CategoryReport) :
    (cs.flatMap (·.samples)).filter (·.kind.isMeasured) = cs.flatMap (·.samples) := by
  rw [List.filter_eq_self]
  intro x hx
  obtain ⟨c, -, hxc⟩ := List.mem_flatMap.1 hx
  rw [samples, Pairing.samples, List.mem_append, List.mem_map, List.mem_map] at hxc
  obtain ⟨y, -, rfl⟩ | ⟨y, -, rfl⟩ := hxc
  · rfl
  · rfl

theorem Parallel.map_algorithm_side {c : CategoryReport} (h : c.Parallel) {kind : Kind}
    (hk : kind.isMeasured) : (c.side kind).map (·.1.algorithm) = c.pairing.algorithms := by
  have hz : ∀ (ms : List Measurement) (rs : List Float), rs.length = ms.length →
      (ms.zip rs).map (·.1.algorithm) = ms.map (·.algorithm) := by
    intro ms rs hl
    calc (ms.zip rs).map (·.1.algorithm)
        = ((ms.zip rs).map (·.1)).map (·.algorithm) := by rw [List.map_map]; rfl
      _ = ms.map (·.algorithm) := by rw [List.map_fst_zip (Nat.le_of_eq hl.symm)]
  obtain rfl | rfl := Kind.isMeasured_iff.1 hk
  · exact (hz _ _ h.encode_ratios).trans h.encode_algorithms
  · exact (hz _ _ h.decode_ratios).trans h.decode_algorithms

theorem Parallel.map_algorithm_samples {c : CategoryReport} (h : c.Parallel) :
    c.samples.map (·.algorithm) = c.pairing.algorithms ++ c.pairing.algorithms := by
  calc c.samples.map (·.algorithm)
      = (c.side .encode).map (·.1.algorithm) ++ (c.side .decode).map (·.1.algorithm) := by
        simp [samples, Pairing.samples, side, Function.comp_def]
    _ = c.pairing.algorithms ++ c.pairing.algorithms := by
        rw [h.map_algorithm_side rfl, h.map_algorithm_side rfl]

theorem eraseDups_algorithms {cs : List CategoryReport} (h : ∀ c ∈ cs, c.Parallel) :
    ((cs.flatMap (·.samples)).map (·.algorithm)).eraseDups =
      (cs.flatMap (·.pairing.algorithms)).eraseDups := by
  rw [List.map_flatMap]
  refine eraseDups_flatMap_congr fun c hc => ?_
  rw [(h c hc).map_algorithm_samples, eraseDups_append_eq, List.append_right_eq_self,
    List.filter_eq_nil_iff]
  intro a ha
  simpa using List.mem_eraseDups.1 ha

end CategoryReport

namespace Report
open CategoryReport

def sortedSide (inputs : List Input) (kind : Kind) (name : String) : List Measurement :=
  sortByAlgorithm (Category.side kind name (primary inputs))

theorem mem_sortedSide_iff {inputs : List Input} {kind : Kind} {name : String} {m : Measurement} :
    m ∈ sortedSide inputs kind name ↔ m ∈ primary inputs ∧ m.category = name ∧ m.kind = kind := by
  rw [sortedSide, mem_sortByAlgorithm, Category.mem_side_iff]

theorem sortedSide_ne_nil {inputs : List Input} {name : String} (h : name ∈ Category.names (primary inputs))
    (hm : (Category.select (primary inputs) name).Matched) {kind : Kind} (hk : kind.isMeasured) :
    sortedSide inputs kind name ≠ [] := by
  have he := hm.encode_ne_nil (Category.wellFormed_select h)
  refine List.ne_nil_of_length_pos ?_
  rw [sortedSide, length_sortByAlgorithm]
  obtain rfl | rfl := Kind.isMeasured_iff.1 hk
  · exact List.length_pos_iff.2 he
  · have hl := hm.algorithms.length_eq
    rw [List.length_map, List.length_map] at hl
    exact hl ▸ List.length_pos_iff.2 he

theorem side_of_mem {s : Settings} {inputs : List Input} {c : CategoryReport}
    (h : c ∈ (ofInputs s inputs).categories) {kind : Kind} (hk : kind.isMeasured) :
    ∃ p base, s.baseline.position? (sortedSide inputs kind c.pairing.category) = some p ∧
      (sortedSide inputs kind c.pairing.category)[p]? = some base ∧
      c.side kind = (sortedSide inputs kind c.pairing.category).mapIdx fun i m =>
        (m, if i = p then 1.0 else relativeTo base.cpuTime m.cpuTime) := by
  obtain ⟨name, hname, rs, hm, hrs, rfl⟩ := exists_paired_of_mem h
  obtain ⟨hre, hrd⟩ := Pairing.ratios?_eq_some_iff.1 hrs
  have hne := sortedSide_ne_nil hname hm hk
  have hz : ∀ (xs : List Measurement) (p : Nat) (t : Float), xs.zip (ratiosTo p t xs) =
      xs.mapIdx fun i m => (m, if i = p then 1.0 else relativeTo t m.cpuTime) := by
    intro xs p t
    refine List.ext_getElem (by simp [ratiosTo]) fun i _ _ => ?_
    simp [ratiosTo]
  obtain rfl | rfl := Kind.isMeasured_iff.1 hk
  · obtain ⟨p, base, hp, hb, hr⟩ := (CodecBench.ratios?_eq_some_iff hne).1 hre
    exact ⟨p, base, hp, hb, by rw [side, hr]; exact hz _ _ _⟩
  · obtain ⟨p, base, hp, hb, hr⟩ := (CodecBench.ratios?_eq_some_iff hne).1 hrd
    exact ⟨p, base, hp, hb, by rw [side, hr]; exact hz _ _ _⟩

theorem map_fst_side {s : Settings} {inputs : List Input} {c : CategoryReport}
    (h : c ∈ (ofInputs s inputs).categories) {kind : Kind} (hk : kind.isMeasured) :
    (c.side kind).map (·.1) = sortedSide inputs kind c.pairing.category := by
  obtain ⟨p, base, -, -, hside⟩ := side_of_mem h hk
  rw [hside]
  exact List.ext_getElem (by simp) (by simp)

theorem standings_eq {cs : List CategoryReport} (h : ∀ c ∈ cs, c.Parallel) :
    standings cs = (cs.flatMap (·.pairing.algorithms)).eraseDups.map fun a =>
      ⟨a, meanOf? (counted cs .encode a), meanOf? (counted cs .decode a)⟩ := by
  rw [standings, Standings.toList_addAll, filter_measured_samples, eraseDups_algorithms h]
  refine List.map_congr_left fun a _ => ?_
  rw [counted_flatMap_samples cs rfl, counted_flatMap_samples cs rfl]

theorem verdicts_take_one (s : Settings) (inputs : List Input) :
    verdicts s (inputs.take 1) = verdicts s inputs := by
  cases inputs <;> rfl

/-- A standing for each reported algorithm, first-seen first, with the mean over those of its measurements
in the reported categories that have a ratio; all lists of a category go together, so that none of its
measurements is passed over, and further inputs change nothing. -/
theorem overall_exactly (s : Settings) (inputs : List Input) :
    (ofInputs s inputs).overall =
      ((ofInputs s inputs).categories.flatMap (·.pairing.algorithms)).eraseDups.map (fun a =>
        ⟨a, meanOf? (counted (ofInputs s inputs).categories .encode a),
          meanOf? (counted (ofInputs s inputs).categories .decode a)⟩) ∧
    (∀ c ∈ (ofInputs s inputs).categories, c.Parallel) ∧
    (ofInputs s inputs).overall = (ofInputs s (inputs.take 1)).overall := by
  refine ⟨standings_eq fun c hc => parallel_of_mem hc, fun c hc => parallel_of_mem hc, ?_⟩
  simp only [ofInputs, verdicts_take_one]

theorem overall_exactly_one_category :
    let inputs : List Input := [⟨"run", [⟨"a/Encode_X", some 4.0, some "ns", none, none⟩,
      ⟨"a/Decode_X", some 1.0, some "ns", none, none⟩]⟩]
    ∃ c ∈ (ofInputs ⟨.first, "X", .algorithms, false⟩ inputs).categories,
      c.pairing.category = "a" ∧ c.Parallel := by
  intro inputs
  have hm : "a" ∈ (ofInputs ⟨.first, "X", .algorithms, false⟩ inputs).reported := by
    refine mem_reported_iff.2 ⟨by decide +kernel, by decide +kernel, by decide +kernel,
      by decide +kernel, ?_⟩
    intro a ha
    cases ha
  obtain ⟨c, hc, hcat⟩ := List.mem_map.1 hm
  exact ⟨c, hc, hcat, (overall_exactly _ inputs).2.1 c hc⟩

end Report
end CodecBench
