import CodecBench.Proofs.Agreement
import CodecBench.Proofs.ChartFolder
import CodecBench.Proofs.Exclusion
import CodecBench.Proofs.Relating
import Mathlib.Data.Fintype.EquivFin
/-!
The rows of a category beside its bars. The table looks the ratios up by position while the chart copies them whole;
as all lists of a reported category go together (`CategoryReport.Parallel`), no position is missed and both show the
same. Every measurement of the category has a row of its own (`Report.rows_beside_bars`).
-/

namespace CodecBench

def Row.taken (r : Row) : Kind → Option Float
  | .encode => r.encodeTime
  | .decode => r.decodeTime
  | .other _ => none

def Row.Shows (r : Row) (m : Measurement) : Prop := r.name = m.algorithm ∧ r.taken m.kind = some m.cpuTime

namespace CategoryReport
variable {c : CategoryReport}

theorem getElem?_rows {i : Nat} {e d : Measurement} (he : c.pairing.encode[i]? = some e)
    (hd : c.pairing.decode[i]? = some d) : c.rows[i]? =
      some ⟨e.algorithm, c.ratios.encode[i]?, some e.cpuTime, c.ratios.decode[i]?, some d.cpuTime⟩ := by
  have hpair : c.pairing.pairs[i]? = some (e, d) := List.getElem?_zip_eq_some.2 ⟨he, hd⟩
  rw [rows, Pairing.rows, List.getElem?_mapIdx, hpair, Option.map_some]

def bars (c : CategoryReport) : Bars :=
  ⟨c.pairing.category, c.pairing.title, c.ratios.encode.map some, c.ratios.decode.map some, c.pairing.algorithms⟩

/-- What stands in one place: an algorithm with a measurement and a ratio in each direction, all of which are in the
row of that place, and the name and the ratios in its bars. -/
structure StandsBeside (c : CategoryReport) (i : Nat) (a : String) (e d : Measurement) (re rd : Float) : Prop where
  encode : c.pairing.encode[i]? = some e
  decode : c.pairing.decode[i]? = some d
  encode_algorithm : e.algorithm = a
  decode_algorithm : d.algorithm = a
  name : c.bars.names[i]? = some a
  encode_bar : c.bars.encode[i]? = some (some re)
  decode_bar : c.bars.decode[i]? = some (some rd)
  row : c.rows[i]? = some ⟨a, some re, some e.cpuTime, some rd, some d.cpuTime⟩

theorem Parallel.exists_standsBeside (h : c.Parallel) {i : Nat} {a : String}
    (ha : c.pairing.algorithms[i]? = some a) : ∃ e d re rd, c.StandsBeside i a e d re rd := by
  obtain ⟨e, he, hea⟩ : ∃ e, c.pairing.encode[i]? = some e ∧ e.algorithm = a := by
    rwa [← h.encode_algorithms, List.getElem?_map, Option.map_eq_some_iff] at ha
  obtain ⟨d, hd, hda⟩ : ∃ d, c.pairing.decode[i]? = some d ∧ d.algorithm = a := by
    rwa [← h.decode_algorithms, List.getElem?_map, Option.map_eq_some_iff] at ha
  have hie : i < c.ratios.encode.length := h.encode_ratios ▸ (List.getElem?_eq_some_iff.1 he).1
  have hid : i < c.ratios.decode.length := h.decode_ratios ▸ (List.getElem?_eq_some_iff.1 hd).1
  refine ⟨e, d, c.ratios.encode[i], c.ratios.decode[i], he, hd, hea, hda, ha, ?_, ?_, ?_⟩
  · rw [bars, List.getElem?_map, List.getElem?_eq_getElem hie, Option.map_some]
  · rw [bars, List.getElem?_map, List.getElem?_eq_getElem hid, Option.map_some]
  · rw [getElem?_rows he hd, hea, List.getElem?_eq_getElem hie, List.getElem?_eq_getElem hid]

end CategoryReport

namespace Report
variable {s : Settings} {inputs : List Input} {c : CategoryReport} (hc : c ∈ (ofInputs s inputs).categories)
include hc

theorem lengths_rows_and_bars : c.rows.length = c.pairing.size ∧ c.bars.names.length = c.pairing.size ∧
    c.bars.encode.length = c.pairing.size ∧ c.bars.decode.length = c.pairing.size := by
  obtain ⟨he, hd, hre, hrd⟩ := lengths_of_mem hc
  have hrows : c.rows.length = c.pairing.size := by
    simp [CategoryReport.rows, Pairing.rows, Pairing.pairs, he, hd]
  exact ⟨hrows, rfl, by simp [CategoryReport.bars, hre], by simp [CategoryReport.bars, hrd]⟩

theorem exists_baseline_place : ∃ p, s.baseline.StandsAt c.pairing.algorithms p ∧
    c.bars.encode[p]? = some (some 1.0) ∧ c.bars.decode[p]? = some (some 1.0) := by
  obtain ⟨name, hname, rs, hm, hrs, rfl⟩ := exists_paired_of_mem hc
  have hpair := Category.pair_eq_ok_iff.2 ⟨hm, rfl⟩
  obtain ⟨hnil, -⟩ | ⟨p, hp, hencode, hdecode⟩ := (Category.ratios?_eq_some_iff_of_pair hpair).1 hrs
  · exact absurd (List.map_eq_nil_iff.1 hnil) (sortedSide_ne_nil hname hm rfl)
  · refine ⟨p, hp, ?_, ?_⟩
    · rw [CategoryReport.bars, List.getElem?_map, hencode.itself, Option.map_some]
    · rw [CategoryReport.bars, List.getElem?_map, hdecode.itself, Option.map_some]

theorem encode_and_decode_of_mem : c.pairing.encode = sortedSide inputs .encode c.pairing.category ∧
    c.pairing.decode = sortedSide inputs .decode c.pairing.category := by
  obtain ⟨name, -, rs, -, -, rfl⟩ := exists_paired_of_mem hc
  exact ⟨rfl, rfl⟩

theorem exists_row_shows {kind : Kind} (hk : kind.isMeasured) {i : Nat} {m : Measurement}
    (hm : (sortedSide inputs kind c.pairing.category)[i]? = some m) : ∃ row, c.rows[i]? = some row ∧ row.Shows m := by
  have hkind : m.kind = kind := (mem_sortedSide_iff.1 (List.mem_of_getElem? hm)).2.2
  have ha : c.pairing.algorithms[i]? = some m.algorithm := by
    rw [← map_algorithm_sortedSide hc hk, List.getElem?_map, hm, Option.map_some]
  obtain ⟨e, d, re, rd, h⟩ := (parallel_of_mem hc).exists_standsBeside ha
  obtain ⟨hencode, hdecode⟩ := encode_and_decode_of_mem hc
  refine ⟨_, h.row, rfl, ?_⟩
  rw [hkind]
  obtain rfl | rfl := Kind.isMeasured_iff.1 hk
  · have he : some e = some m := by rw [← h.encode, hencode, hm]
    rw [Row.taken, Option.some_inj.1 he]
  · have hd : some d = some m := by rw [← h.decode, hdecode, hm]
    rw [Row.taken, Option.some_inj.1 hd]

theorem length_sortedSide {kind : Kind} (hk : kind.isMeasured) :
    (sortedSide inputs kind c.pairing.category).length = c.rows.length := by
  rw [(lengths_rows_and_bars hc).1, Pairing.size, ← map_algorithm_sortedSide hc hk, List.length_map]

theorem exists_place {kind : Kind} (hk : kind.isMeasured) :
    ∃ place : Fin (Category.side kind c.pairing.category (primary inputs)).length → Fin c.rows.length,
      Function.Bijective place ∧
      ∀ k, c.rows[place k].Shows (Category.side kind c.pairing.category (primary inputs))[k] := by
  obtain ⟨place, hplace, hsame⟩ := exists_place_of_perm
    (sortByAlgorithm_perm (Category.side kind c.pairing.category (primary inputs))).symm
  have hlen := length_sortedSide hc hk
  refine ⟨fun k => (place k).cast hlen, (finCongr hlen).bijective.comp hplace, fun k => ?_⟩
  have hm : (sortedSide inputs kind c.pairing.category)[(place k).val]? =
      some (Category.side kind c.pairing.category (primary inputs))[k] := by
    rw [← hsame k]
    exact List.getElem?_eq_getElem (place k).isLt
  obtain ⟨row, hrow, hshows⟩ := exists_row_shows hc hk hm
  obtain ⟨_, rfl⟩ := List.getElem?_eq_some_iff.1 hrow
  exact hshows

end Report

/-- The table and the chart of a reported category side by side. They have a row and a name and two bars for every
algorithm, each in the place of the algorithm and of the two measurements that are paired there, and none of them
absent. The baseline has one place, where both ratios are one; and every measurement of the category has its row, and
every row one measurement of each direction. -/
theorem Report.rows_beside_bars (s : Settings) (inputs : List Input) :
    ∀ c ∈ (ofInputs s inputs).categories,
      c.chart = .category c.bars ∧
      (c.rows.length = c.pairing.size ∧ c.bars.names.length = c.pairing.size ∧
        c.bars.encode.length = c.pairing.size ∧ c.bars.decode.length = c.pairing.size) ∧
      (∀ i a, c.pairing.algorithms[i]? = some a → ∃ e d re rd, c.StandsBeside i a e d re rd) ∧
      (∃ p a e d, s.baseline.StandsAt c.pairing.algorithms p ∧ c.StandsBeside p a e d 1.0 1.0) ∧
      ∀ kind, kind.isMeasured →
        ∃ place : Fin (Category.side kind c.pairing.category (primary inputs)).length → Fin c.rows.length,
          Function.Bijective place ∧
          ∀ k, c.rows[place k].Shows (Category.side kind c.pairing.category (primary inputs))[k] := by
  intro c hc
  have hparallel := parallel_of_mem hc
  refine ⟨rfl, lengths_rows_and_bars hc, fun i a ha => hparallel.exists_standsBeside ha, ?_,
    fun kind hk => exists_place hc hk⟩
  obtain ⟨p, hp, hencode, hdecode⟩ := exists_baseline_place hc
  have hlt : p < c.pairing.algorithms.length := by
    have hpe := (List.getElem?_eq_some_iff.1 hencode).1
    rwa [(lengths_rows_and_bars hc).2.2.1] at hpe
  obtain ⟨e, d, re, rd, h⟩ := hparallel.exists_standsBeside (List.getElem?_eq_getElem hlt)
  obtain rfl : re = 1.0 := Option.some_inj.1 (Option.some_inj.1 (h.encode_bar.symm.trans hencode))
  obtain rfl : rd = 1.0 := Option.some_inj.1 (Option.some_inj.1 (h.decode_bar.symm.trans hdecode))
  exact ⟨p, _, e, d, hp, h⟩

theorem Report.rows_beside_bars_twice :
    let entry (name : String) (t : Float) : Entry := ⟨name, some t, "ns", none, none⟩
    let inputs : List Input := [⟨"run", [entry "a/Encode_Y" 5.0, entry "a/Decode_Y" 2.0, entry "a/Encode_X" 4.0,
      entry "a/Encode_Y" 7.0, entry "a/Decode_X" 1.0, entry "a/Decode_Y" 3.0]⟩]
    ∃ c ∈ (ofInputs ⟨.named "Y", "X", .algorithms, false⟩ inputs).categories, c.rows.length = 3 ∧
      (∃ p row, (Baseline.named "Y").StandsAt c.pairing.algorithms p ∧ c.rows[p]? = some row ∧
        row.encodeRatio = some 1.0 ∧ row.decodeRatio = some 1.0) ∧
      ∃ row ∈ c.rows, row.name = "Y" ∧ row.encodeTime = some 7.0 := by
  intro entry inputs
  have ha : "a" ∈ (ofInputs ⟨.named "Y", "X", .algorithms, false⟩ inputs).reported :=
    mem_reported_iff.2 (by decide +kernel)
  obtain ⟨c, hc, hcat⟩ := List.mem_map.1 ha
  obtain ⟨-, -, -, ⟨p, a, e, d, hp, hbeside⟩, hplace⟩ := rows_beside_bars _ inputs c hc
  obtain ⟨place, hbijective, hshows⟩ := hplace .encode rfl
  have hcard : c.rows.length = (Category.side .encode c.pairing.category (primary inputs)).length := by
    simpa using (Fintype.card_of_bijective hbijective).symm
  have hthree : (Category.side .encode c.pairing.category (primary inputs)).length = 3 := by
    rw [hcat]
    decide +kernel
  have hlast : ∃ m ∈ Category.side .encode c.pairing.category (primary inputs), m.algorithm = "Y" ∧
      m.cpuTime = 7.0 ∧ m.kind = .encode := by
    rw [hcat]
    decide +kernel
  refine ⟨c, hc, hcard.trans hthree, ⟨p, _, hp, hbeside.row, rfl, rfl⟩, ?_⟩
  obtain ⟨m, hm, halgorithm, htime, hkind⟩ := hlast
  obtain ⟨k, hk, rfl⟩ := List.mem_iff_getElem.1 hm
  obtain ⟨hname, htaken⟩ := hshows ⟨k, hk⟩
  refine ⟨_, List.getElem_mem _, hname.trans halgorithm, ?_⟩
  simpa [hkind, htime, Row.taken] using htaken

end CodecBench
