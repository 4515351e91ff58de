import CodecBench.Proofs.Grid
import CodecBench.Proofs.Measurement
import CodecBench.Proofs.Verdict
/-!
Comparisons over all inputs: a direction is compared exactly if the baseline was measured in both
directions and every variant of the direction on every subject of it, and each value relates the last
time of its cell to the last time of the baseline (`Report.comparisons_exactly`).
-/

namespace CodecBench
namespace Grids

def runTimings (source : VariantSource) (kind : Kind) (r : Run) : List Grid.Timing :=
  (r.measurements.filter fun m => m.kind = kind).map fun m =>
    ⟨source.subject m, source.variant r.label m, m.cpuTime⟩

def timings (source : VariantSource) (kind : Kind) (runs : List Run) : List Grid.Timing :=
  runs.flatMap (runTimings source kind)

theorem foldl_insert (source : VariantSource) (label : String) (g : Grids) (ms : List Measurement) :
    ms.foldl (insert source label) g =
      ⟨(runTimings source .encode ⟨label, ms⟩).foldl .enter g.encode,
        (runTimings source .decode ⟨label, ms⟩).foldl .enter g.decode⟩ := by
  induction ms generalizing g with
  | nil => rfl
  | cons m ms ih =>
    rw [List.foldl_cons, ih]
    cases h : m.kind <;> simp [runTimings, insert, h, Grid.enter]

theorem ofRuns_eq (source : VariantSource) (runs : List Run) :
    ofRuns source runs =
      ⟨.ofTimings (timings source .encode runs), .ofTimings (timings source .decode runs)⟩ := by
  have h : ∀ g : Grids, runs.foldl (fun g run => run.measurements.foldl (insert source run.label) g) g =
      ⟨(timings source .encode runs).foldl .enter g.encode,
        (timings source .decode runs).foldl .enter g.decode⟩ := by
    induction runs with
    | nil => intro g; rfl
    | cons r runs ih =>
      intro g
      rw [List.foldl_cons, foldl_insert, ih]
      simp only [timings, List.flatMap_cons, List.foldl_append]
  exact h empty

end Grids

namespace Report

def timings (s : Settings) (inputs : List Input) (kind : Kind) : List Grid.Timing :=
  Grids.timings s.source kind (inputs.map Input.run)

def grid (s : Settings) (inputs : List Input) (kind : Kind) : Grid := .ofTimings (timings s inputs kind)

def subjects (s : Settings) (inputs : List Input) (kind : Kind) : List String :=
  (timings s inputs kind).map (·.subject)

def variants (s : Settings) (inputs : List Input) (kind : Kind) : List String :=
  (timings s inputs kind).map (·.variant)

theorem mem_variants_grid {s : Settings} {inputs : List Input} {kind : Kind} {v : String} :
    v ∈ (grid s inputs kind).variants ↔ v ∈ variants s inputs kind :=
  Grid.mem_variants_ofTimings

theorem outcomes_eq (s : Settings) (inputs : List Input) :
    outcomes s inputs =
      if s.baselineVariant ∈ variants s inputs .encode then
        if s.baselineVariant ∈ variants s inputs .decode then
          [(grid s inputs .encode).compare .encode s.baselineVariant,
            (grid s inputs .decode).compare .decode s.baselineVariant]
        else [.error (.missingBaseline .decode s.baselineVariant)]
      else [.error (.missingBaseline .encode s.baselineVariant)] := by
  have hg : Grids.ofRuns s.source (inputs.map Input.run) =
      ⟨grid s inputs .encode, grid s inputs .decode⟩ := Grids.ofRuns_eq _ _
  rw [outcomes, hg, Grids.compare]
  simp only [Grid.hasVariant_iff, mem_variants_grid]
  by_cases he : s.baselineVariant ∈ variants s inputs .encode
  · by_cases hd : s.baselineVariant ∈ variants s inputs .decode
    · simp [he, hd]
    · simp [he, hd]
  · simp [he]

theorem outcomes_cases (s : Settings) (inputs : List Input) :
    (s.baselineVariant ∈ variants s inputs .encode ∧ s.baselineVariant ∈ variants s inputs .decode ∧
      outcomes s inputs = [(grid s inputs .encode).compare .encode s.baselineVariant,
        (grid s inputs .decode).compare .decode s.baselineVariant]) ∨
    ∃ kind : Kind, kind.isMeasured ∧ s.baselineVariant ∉ variants s inputs kind ∧
      outcomes s inputs = [.error (.missingBaseline kind s.baselineVariant)] := by
  rw [outcomes_eq]
  by_cases he : s.baselineVariant ∈ variants s inputs .encode
  · by_cases hd : s.baselineVariant ∈ variants s inputs .decode
    · exact .inl ⟨he, hd, by simp [he, hd]⟩
    · exact .inr ⟨.decode, rfl, hd, by simp [he, hd]⟩
  · exact .inr ⟨.encode, rfl, he, by simp [he]⟩

theorem mem_comparisons_iff {s : Settings} {inputs : List Input} {c : Comparison} :
    c ∈ (ofInputs s inputs).comparisons ↔ c.kind.isMeasured ∧
      s.baselineVariant ∈ variants s inputs .encode ∧ s.baselineVariant ∈ variants s inputs .decode ∧
      (grid s inputs c.kind).compare c.kind s.baselineVariant = .ok c := by
  have hk : ∀ kind, (grid s inputs kind).compare kind s.baselineVariant = .ok c → c.kind = kind :=
    fun kind h => (Grid.compare_eq_ok_iff.1 h).2.1
  rw [ofInputs, mem_filterMap_success?_iff, Kind.isMeasured_iff]
  obtain ⟨he, hd, ho⟩ | ⟨kind, hm, hb, ho⟩ := outcomes_cases s inputs
  · rw [ho]
    simp only [he, hd, true_and, List.mem_cons, List.not_mem_nil, or_false]
    constructor
    · intro h'
      obtain h | h := h'
      · exact ⟨.inl (hk _ h.symm), by rw [hk _ h.symm]; exact h.symm⟩
      · exact ⟨.inr (hk _ h.symm), by rw [hk _ h.symm]; exact h.symm⟩
    · intro h'
      obtain ⟨h | h, hc⟩ := h'
      · exact .inl (by rw [h] at hc; exact hc.symm)
      · exact .inr (by rw [h] at hc; exact hc.symm)
  · rw [ho]
    constructor
    · intro h
      simp at h
    · intro h'
      obtain ⟨-, he, hd, -⟩ := h'
      obtain rfl | rfl := Kind.isMeasured_iff.1 hm
      · exact absurd he hb
      · exact absurd hd hb

theorem variants_of_mem_comparisons {s : Settings} {inputs : List Input} {c : Comparison}
    (h : c ∈ (ofInputs s inputs).comparisons) :
    (c.series.map (·.variant)).Nodup ∧ s.baselineVariant ∈ c.series.map (·.variant) := by
  obtain ⟨-, -, -, hg⟩ := mem_comparisons_iff.1 h
  obtain ⟨hb, -, -, -, hv, -⟩ := Grid.compare_eq_ok_iff.1 hg
  rw [hv]
  exact ⟨Grid.nodup_variants _, hb⟩

theorem subjects_grid (s : Settings) (inputs : List Input) (kind : Kind) :
    (grid s inputs kind).subjects = (subjects s inputs kind).eraseDups :=
  Grid.subjects_ofTimings _

def lastTime? (s : Settings) (inputs : List Input) (kind : Kind) (subject variant : String) :
    Option Float :=
  Grid.lastTime? (timings s inputs kind) subject variant

theorem get?_grid (s : Settings) (inputs : List Input) (kind : Kind) (subject variant : String) :
    (grid s inputs kind).get? subject variant = lastTime? s inputs kind subject variant :=
  Grid.get?_ofTimings _ _ _

theorem exists_comparison_iff {s : Settings} {inputs : List Input} {kind : Kind} :
    (∃ c ∈ (ofInputs s inputs).comparisons, c.kind = kind) ↔ kind.isMeasured ∧
      s.baselineVariant ∈ variants s inputs .encode ∧ s.baselineVariant ∈ variants s inputs .decode ∧
      ∀ x ∈ subjects s inputs kind, ∀ v ∈ variants s inputs kind,
        (lastTime? s inputs kind x v).isSome := by
  have hc : (∃ c, (grid s inputs kind).compare kind s.baselineVariant = .ok c) ↔
      s.baselineVariant ∈ variants s inputs kind ∧ ∀ x ∈ subjects s inputs kind,
        ∀ v ∈ variants s inputs kind, (lastTime? s inputs kind x v).isSome := by
    rw [Grid.exists_compare_iff]
    simp only [mem_variants_grid, subjects_grid, List.mem_eraseDups, get?_grid, Option.isSome_iff_exists]
  simp only [mem_comparisons_iff]
  constructor
  · intro h'
    obtain ⟨c, ⟨hm, he, hd, hg⟩, rfl⟩ := h'
    exact ⟨hm, he, hd, (hc.1 ⟨c, hg⟩).2⟩
  · intro h'
    obtain ⟨hm, he, hd, h⟩ := h'
    have hb : s.baselineVariant ∈ variants s inputs kind := by
      obtain rfl | rfl := Kind.isMeasured_iff.1 hm
      · exact he
      · exact hd
    obtain ⟨c, hg⟩ := hc.2 ⟨hb, h⟩
    have hk : c.kind = kind := (Grid.compare_eq_ok_iff.1 hg).2.1
    exact ⟨c, ⟨hk ▸ hm, he, hd, hk ▸ hg⟩, hk⟩

/-- Which directions are compared, on what, and with which values. -/
theorem comparisons_exactly (s : Settings) (inputs : List Input) :
    (∀ kind, (∃ c ∈ (ofInputs s inputs).comparisons, c.kind = kind) ↔ kind.isMeasured ∧
      s.baselineVariant ∈ variants s inputs .encode ∧ s.baselineVariant ∈ variants s inputs .decode ∧
      ∀ x ∈ subjects s inputs kind, ∀ v ∈ variants s inputs kind,
        (lastTime? s inputs kind x v).isSome) ∧
    (∀ c ∈ (ofInputs s inputs).comparisons, c.baseline = s.baselineVariant ∧
      c.subjects = (subjects s inputs c.kind).eraseDups ∧
      (c.series.map (·.variant)).Nodup ∧
      (∀ v, v ∈ c.series.map (·.variant) ↔ v ∈ variants s inputs c.kind) ∧
      ∀ x ∈ c.series, List.Forall₂ (fun subject value => ∃ base t,
        lastTime? s inputs c.kind subject s.baselineVariant = some base ∧
        lastTime? s inputs c.kind subject x.variant = some t ∧
        value = if base != 0.0 then t / base else 0.0) c.subjects x.values) ∧
    ∀ (e f : Entry) (m n : Measurement),
      Measurement.ofEntry e = .ok m → Measurement.ofEntry f = .ok n →
      VariantSource.runs.subject m = VariantSource.runs.subject n →
      m.category = n.category ∧ m.algorithm = n.algorithm := by
  refine ⟨fun kind => exists_comparison_iff, fun c hc => ?_,
    fun e f m n hm hn h => VariantSource.runs_subject_injective hm hn h⟩
  obtain ⟨-, -, -, hg⟩ := mem_comparisons_iff.1 hc
  obtain ⟨-, -, hb, hs, hv, hx⟩ := Grid.compare_eq_ok_iff.1 hg
  refine ⟨hb, hs.trans (subjects_grid s inputs c.kind), ?_, fun v => ?_, fun x hxm => ?_⟩
  · rw [hv]
    exact Grid.nodup_variants _
  · rw [hv, mem_variants_grid]
  · rw [hs]
    refine (hx x hxm).imp fun subject value h => ?_
    obtain ⟨base, t, hbase, ht, hval⟩ := Grid.ratio_eq_ok_iff.1 h
    rw [get?_grid] at hbase ht
    exact ⟨base, t, hbase, ht, hval⟩

/-- Two runs of one measurement each, the second one taking half the time to encode. -/
theorem comparisons_exactly_two_runs :
    let entries (encode decode : Float) : List Entry :=
      [⟨"a/Encode_X", encode, "ns", none, none⟩, ⟨"a/Decode_X", decode, "ns", none, none⟩]
    let inputs : List Input := [⟨"old", entries 4.0 1.0⟩, ⟨"new", entries 2.0 1.0⟩]
    ∃ c ∈ (ofInputs ⟨.first, "old", .runs, false⟩ inputs).comparisons,
      c.kind = .encode ∧ c.subjects = ["a/X"] ∧ "new" ∈ c.series.map (·.variant) := by
  intro entries inputs
  have h := comparisons_exactly ⟨.first, "old", .runs, false⟩ inputs
  obtain ⟨c, hc, hk⟩ := (h.1 .encode).2 (by decide +kernel)
  obtain ⟨-, hs, -, hv, -⟩ := h.2.1 c hc
  rw [hk] at hs hv
  exact ⟨c, hc, hk, hs.trans (by decide +kernel), (hv "new").2 (by decide +kernel)⟩

end Report
end CodecBench
