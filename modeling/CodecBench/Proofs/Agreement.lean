import CodecBench.Proofs.Overall
import CodecBench.Proofs.Provenance
import CodecBench.Proofs.Reordering
/-!
The two ways of relating times agree. Within a category the ratios are taken from sorted lists by the position
of the baseline; across categories the algorithms are compared from grids by name. For one input without
repeated names each cell holds the one measurement of its name (`Report.lastMeasured?_eq`), so both relate the
same two times (`Report.normalizations_agree`).
-/

namespace CodecBench
namespace Report

theorem map_algorithm_sortedSide {s : Settings} {inputs : List Input} {c : CategoryReport}
    (h : c ∈ (ofInputs s inputs).categories) {kind : Kind} (hk : kind.isMeasured) :
    (sortedSide inputs kind c.pairing.category).map (·.algorithm) = c.pairing.algorithms := by
  rw [← map_fst_side h hk, List.map_map]
  exact (parallel_of_mem h).map_algorithm_side hk

theorem nodup_algorithms {s : Settings} {i : Input} (hd : (Entry.names i.entries).Nodup)
    {c : CategoryReport} (hc : c ∈ (ofInputs s [i]).categories) : c.pairing.algorithms.Nodup := by
  rw [← map_algorithm_sortedSide hc (rfl : Kind.encode.isMeasured)]
  have hp := (sortByAlgorithm_perm (Category.side .encode c.pairing.category (primary [i]))).map
    (·.algorithm)
  exact hp.nodup_iff.2 (Category.nodup_algorithm_side (Entry.nodup_map_name hd) _ _)

section Single
variable {s : Settings} {i : Input} (hs : s.source = .algorithms)
include hs

theorem mem_cell_algorithms_iff {kind : Kind} {x v : String} {m : Measurement} :
    m ∈ cell s [i] kind x v ↔ m ∈ Entry.measurements i.entries ∧ m.name = ⟨x, kind, v⟩ := by
  rw [mem_cell_iff, hs]
  simp [VariantSource.subject, VariantSource.variant, Measurement.name, and_left_comm]

variable (hd : (Entry.names i.entries).Nodup)
include hd

theorem lastMeasured?_eq {m : Measurement} (hm : m ∈ Entry.measurements i.entries) :
    lastMeasured? s [i] m.kind m.category m.algorithm = some m := by
  have hmc : m ∈ cell s [i] m.kind m.category m.algorithm := (mem_cell_algorithms_iff hs).2 ⟨hm, rfl⟩
  rw [lastMeasured?, List.getLast?_eq_some_getLast (List.ne_nil_of_mem hmc)]
  obtain ⟨hl, hn⟩ := (mem_cell_algorithms_iff hs).1 (List.getLast_mem (List.ne_nil_of_mem hmc))
  exact congrArg some (List.inj_on_of_nodup_map (Entry.nodup_map_name hd) hl hm hn)

theorem value?_of_sortedSide {cmp : Comparison} (h : cmp ∈ (ofInputs s [i]).comparisons) {name : String}
    {m base : Measurement} (hm : m ∈ sortedSide [i] cmp.kind name)
    (hb : base ∈ sortedSide [i] cmp.kind name) (hbase : base.algorithm = s.baselineVariant) :
    cmp.value? name m.algorithm = some (relativeTo base.cpuTime m.cpuTime) := by
  obtain ⟨hmi, hmc, hmk⟩ := mem_sortedSide_iff.1 hm
  obtain ⟨hbi, hbc, hbk⟩ := mem_sortedSide_iff.1 hb
  apply (value?_eq_some_iff h).2
  refine ⟨m, base, ?_, ?_, rfl⟩
  · rw [← hmc, ← hmk]
    exact lastMeasured?_eq hs hd hmi
  · rw [← hbc, ← hbk, ← hbase]
    exact lastMeasured?_eq hs hd hbi

theorem subject_and_variants {cmp : Comparison} (h : cmp ∈ (ofInputs s [i]).comparisons) {c : CategoryReport}
    (hc : c ∈ (ofInputs s [i]).categories) (hb : s.baselineVariant ∈ c.pairing.algorithms) :
    c.pairing.category ∈ cmp.subjects ∧ (cmp.series.map (·.variant)).Perm c.pairing.algorithms := by
  have hk := (mem_comparisons_iff.1 h).1
  have ha := map_algorithm_sortedSide hc hk
  obtain ⟨base, hbm, hbase⟩ : ∃ base ∈ sortedSide [i] cmp.kind c.pairing.category,
      base.algorithm = s.baselineVariant := List.mem_map.1 (ha ▸ hb)
  have hvalue : ∀ a ∈ c.pairing.algorithms, ∃ value, cmp.value? c.pairing.category a = some value := by
    intro a hac
    obtain ⟨m, hm, rfl⟩ := List.mem_map.1 (ha ▸ hac)
    exact ⟨_, value?_of_sortedSide hs hd h hm hbm hbase⟩
  have hsub : c.pairing.category ∈ cmp.subjects := ((exists_value?_iff h).1 (hvalue _ hb)).1
  have hmem : ∀ v, v ∈ cmp.series.map (·.variant) ↔ v ∈ c.pairing.algorithms := by
    intro v
    constructor
    · intro hv
      obtain ⟨value, hval⟩ := (exists_value?_iff h).2 ⟨hsub, hv⟩
      obtain ⟨m, -, hm, -, -⟩ := (value?_eq_some_iff h).1 hval
      obtain ⟨hmi, hn⟩ := (mem_cell_algorithms_iff hs).1 (List.mem_of_getLast? hm)
      rw [Measurement.name, Name.mk.injEq] at hn
      obtain ⟨hcat, hkind, rfl⟩ := hn
      rw [← ha]
      exact List.mem_map_of_mem (mem_sortedSide_iff.2 ⟨hmi, hcat, hkind⟩)
    · intro hv
      exact ((exists_value?_iff h).1 (hvalue v hv)).2
  have hn := (variants_of_mem_comparisons h).1
  exact ⟨hsub, (List.perm_ext_iff_of_nodup hn (nodup_algorithms hd hc)).2 hmem⟩

end Single

/-- For one input without repeated names and a baseline that is asked for by name, every comparison has a
value for exactly the algorithms of each reported category, the ratio that the category has itself. Only the
baseline's own values are made in different ways, and differ where it took no time. -/
theorem normalizations_agree (i : Input) (b : String) (perCategory : Bool)
    (hd : (Entry.names i.entries).Nodup) :
    let r := ofInputs ⟨.named b, b, .algorithms, perCategory⟩ [i]
    ∀ cmp ∈ r.comparisons, ∀ c ∈ r.categories,
      c.pairing.category ∈ cmp.subjects ∧ (cmp.series.map (·.variant)).Perm c.pairing.algorithms ∧
      b ∈ c.pairing.algorithms ∧ (c.side cmp.kind).map (·.1.algorithm) = c.pairing.algorithms ∧
      ∀ x ∈ c.side cmp.kind,
        (x.1.algorithm ≠ b → cmp.value? c.pairing.category x.1.algorithm = some x.2) ∧
        (x.1.algorithm = b → x.2 = 1.0 ∧ cmp.value? c.pairing.category b =
          some (if x.1.cpuTime != 0.0 then x.1.cpuTime / x.1.cpuTime else 0.0)) := by
  intro r cmp hcmp c hc
  have hk := (mem_comparisons_iff.1 hcmp).1
  have ha := map_algorithm_sortedSide hc hk
  obtain ⟨p, base, hp, hb, hside⟩ := side_of_mem hc hk
  have hbase : base.algorithm = b := Baseline.algorithm_of_position? hp hb
  have hbm : base ∈ sortedSide [i] cmp.kind c.pairing.category := List.mem_of_getElem? hb
  have hbc : b ∈ c.pairing.algorithms := by
    rw [← ha, ← hbase]
    exact List.mem_map_of_mem hbm
  obtain ⟨hsub, hvar⟩ := subject_and_variants rfl hd hcmp hc hbc
  refine ⟨hsub, hvar, hbc, (parallel_of_mem hc).map_algorithm_side hk, fun x hx => ?_⟩
  rw [hside, List.mem_mapIdx] at hx
  obtain ⟨j, hj, rfl⟩ := hx
  have hvalue := value?_of_sortedSide rfl hd hcmp (List.getElem_mem hj) hbm hbase
  constructor
  · intro hne
    have hjp : j ≠ p := by
      rintro rfl
      rw [List.getElem?_eq_getElem hj, Option.some.injEq] at hb
      exact hne (hb ▸ hbase)
    rw [if_neg hjp]
    exact hvalue
  · intro hxb
    -- The algorithms are distinct, so that only one position has the baseline's.
    obtain rfl : j = p := by
      have hn := nodup_algorithms hd hc
      rw [← ha] at hn
      refine (List.getElem?_inj (by simpa using hj) hn).1 ?_
      rw [List.getElem?_map, List.getElem?_map, List.getElem?_eq_getElem hj, hb, Option.map_some,
        Option.map_some, hxb, hbase]
    rw [List.getElem?_eq_getElem hj, Option.some.injEq] at hb
    rw [hxb, hb] at hvalue
    exact ⟨if_pos rfl, hb.symm ▸ hvalue⟩

/-- Two algorithms in one category, the baseline of which took no time to decode. -/
theorem normalizations_agree_two_algorithms :
    let i : Input := ⟨"run", [⟨"a/Encode_X", some 4.0, some "ns", none, none⟩,
      ⟨"a/Encode_Y", some 1.0, some "ns", none, none⟩, ⟨"a/Decode_X", some 0.0, some "ns", none, none⟩,
      ⟨"a/Decode_Y", some 2.0, some "ns", none, none⟩]⟩
    let r := ofInputs ⟨.named "X", "X", .algorithms, false⟩ [i]
    (Entry.names i.entries).Nodup ∧ ∃ cmp ∈ r.comparisons, cmp.kind = .decode ∧ ∃ c ∈ r.categories,
      c.pairing.category = "a" ∧ "a" ∈ cmp.subjects ∧
      ∀ x ∈ c.side .decode, (x.1.algorithm ≠ "X" → cmp.value? "a" x.1.algorithm = some x.2) ∧
        (x.1.algorithm = "X" → x.2 = 1.0) := by
  intro i r
  have hd : (Entry.names i.entries).Nodup := by decide
  obtain ⟨cmp, hcmp, hk⟩ : ∃ cmp ∈ r.comparisons, cmp.kind = .decode :=
    exists_comparison_iff.2 ⟨rfl, by decide +kernel, by decide +kernel, by decide +kernel⟩
  have hm : "a" ∈ r.reported := mem_reported_iff.2 (by decide +kernel)
  obtain ⟨c, hc, hcat⟩ := List.mem_map.1 hm
  obtain ⟨hsub, -, -, -, hx⟩ := normalizations_agree i "X" false hd cmp hcmp c hc
  rw [hcat] at hsub hx
  rw [hk] at hx
  exact ⟨hd, cmp, hcmp, hk, c, hc, hcat, hsub, fun x hxm => ⟨(hx x hxm).1, fun ha => ((hx x hxm).2 ha).1⟩⟩

end Report
end CodecBench
