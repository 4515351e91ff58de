import CodecBench.CommandLine
import CodecBench.Proofs.Diagnostics
import CodecBench.Proofs.RunLabel
/-!
What a command line compares with by default. If runs are compared and no baseline is given, the baseline is the
label that the main run is loaded with, since both are taken from the labels of all paths
(`CommandLine.ofPaths_inputs`). So that run is among the variants of every direction that it has measurements of,
and no comparison is left out for want of a baseline (`CommandLine.default_baseline_loaded`).
-/

namespace CodecBench
namespace Loading

theorem loadAll_cons_eq_ok {find : String → Found} {path label : String} {rest : List (String × String)}
    {events : List Event} {inputs : List Input} (h : loadAll find ((path, label) :: rest) = (events, .ok inputs)) :
    ∃ entries others, load find path = .ok entries ∧ inputs = ⟨label, entries⟩ :: others := by
  rw [loadAll] at h
  cases hl : load find path with
  | error fault => simp [hl] at h
  | ok entries =>
    cases hr : loadAll find rest with
    | mk restEvents result =>
      cases result with
      | error fault => simp [hl, hr] at h
      | ok others =>
        simp only [hl, hr] at h
        exact ⟨entries, others, rfl, (Except.ok.inj (Prod.mk.inj h).2).symm⟩

theorem report_eq_ok {find : String → Found} {s : Settings} {paths : List String} {events : List Event}
    {r : Report} (h : report find s paths = (events, .ok r)) :
    ∃ loading inputs, loadAll find (paths.zip (RunLabel.ofPaths paths)) = (loading, .ok inputs) ∧
      r = .ofInputs s inputs := by
  rw [report] at h
  cases hl : loadAll find (paths.zip (RunLabel.ofPaths paths)) with
  | mk loading result =>
    cases result with
    | error fault => simp [hl] at h
    | ok inputs =>
      simp only [hl] at h
      exact ⟨loading, inputs, rfl, (Except.ok.inj (Prod.mk.inj h).2).symm⟩

end Loading

namespace Report

theorem label_mem_variants {s : Settings} {inputs : List Input} {i : Input} {kind : Kind} {m : Measurement}
    (hs : s.source = .runs) (hi : i ∈ inputs) (hm : m ∈ Entry.measurements i.entries) (hk : m.kind = kind) :
    i.label ∈ variants s inputs kind := by
  have ht : ⟨VariantSource.runs.subject m, i.label, m.cpuTime⟩ ∈ timings s inputs kind := by
    rw [timings, Grids.timings, hs, List.mem_flatMap]
    refine ⟨i.run, List.mem_map_of_mem hi, List.mem_map.2 ⟨m, ?_, rfl⟩⟩
    exact List.mem_filter.2 ⟨hm, decide_eq_true hk⟩
  exact List.mem_map.2 ⟨_, ht, rfl⟩

theorem missingBaseline_notMem {s : Settings} {inputs : List Input}
    (he : s.baselineVariant ∈ variants s inputs .encode) (hd : s.baselineVariant ∈ variants s inputs .decode)
    (kind : Kind) (b : String) : .uncompared (.missingBaseline kind b) ∉ (ofInputs s inputs).diagnostics := by
  rw [mem_diagnostics_uncompared_iff, outcomes_eq, if_pos he, if_pos hd, List.mem_pair, not_or]
  rw [← mem_variants_grid] at he hd
  exact ⟨(Grid.compare_ne_missingBaseline he).symm, (Grid.compare_ne_missingBaseline hd).symm⟩

end Report

namespace CommandLine

theorem ofPaths_inputs {c : CommandLine} (hv : c.variants ≠ []) (hb : c.baseline = none) :
    ∃ others, RunLabel.ofPaths c.inputs = c.settings.baselineVariant :: others ∧
      c.settings.baselineVariant = RunLabel.plainLabel (c.inputs.map RunLabel.stem) c.input := by
  have hs : c.settings.baselineVariant = (RunLabel.ofPaths c.inputs).headD defaultVariant := by
    simp [settings, baselineVariant, hb, hv]
  rw [hs]
  exact ⟨_, rfl, by simp [RunLabel.ofPaths, inputs, RunLabel.chooseAll, RunLabel.choose, RunLabel.plainLabel]⟩

/-- Without a baseline of its own a command line compares with the main run, under the label that the run is
loaded with. If that run has measurements of both directions, nothing is missing to compare with. -/
theorem default_baseline_loaded {c : CommandLine} {find : String → Found} {events : List Event} {r : Report}
    (hv : c.variants ≠ []) (hb : c.baseline = none)
    (h : Loading.report find c.settings c.inputs = (events, .ok r)) :
    ∃ i others, (Loading.loadAll find (c.inputs.zip (RunLabel.ofPaths c.inputs))).2 = .ok (i :: others) ∧
      Loading.load find c.input = .ok i.entries ∧
      c.settings.baselineVariant = i.label ∧
      i.label = RunLabel.plainLabel (c.inputs.map RunLabel.stem) c.input ∧
      r = .ofInputs c.settings (i :: others) ∧
      ((∃ m ∈ Entry.measurements i.entries, m.kind = .encode) →
        (∃ m ∈ Entry.measurements i.entries, m.kind = .decode) →
          ∀ kind b, .uncompared (.missingBaseline kind b) ∉ r.diagnostics) ∧
      ∀ x ∈ r.comparisons, x.baseline = i.label ∧ i.label ∈ x.series.map (·.variant) := by
  obtain ⟨loading, inputs, hl, rfl⟩ := Loading.report_eq_ok h
  obtain ⟨labels, hlabels, hplain⟩ := ofPaths_inputs hv hb
  have hz : c.inputs.zip (RunLabel.ofPaths c.inputs) =
      (c.input, c.settings.baselineVariant) :: c.variants.zip labels := by
    rw [hlabels]
    rfl
  have hl' := hl
  rw [hz] at hl'
  obtain ⟨entries, others, he, rfl⟩ := Loading.loadAll_cons_eq_ok hl'
  have hs : c.settings.source = .runs := by simp [settings, hv]
  refine ⟨⟨c.settings.baselineVariant, entries⟩, others, by rw [hl], he, rfl, hplain, rfl, ?_, ?_⟩
  · intro henc hdec
    obtain ⟨m, hm, hmk⟩ := henc
    obtain ⟨n, hn, hnk⟩ := hdec
    exact Report.missingBaseline_notMem (Report.label_mem_variants hs List.mem_cons_self hm hmk)
      (Report.label_mem_variants hs List.mem_cons_self hn hnk)
  · intro x hx
    obtain ⟨-, -, -, hg⟩ := Report.mem_comparisons_iff.1 hx
    exact ⟨(Grid.compare_eq_ok_iff.1 hg).2.2.1, (Report.variants_of_mem_comparisons hx).2⟩

/-- Two files of one name in different folders: the main run is called by its whole path. -/
theorem default_baseline_loaded_colliding :
    let document : Bytes := "[[[\"a/Encode_X\",1,\"ns\"],[\"a/Decode_X\",1,\"ns\"]]]".toUTF8.toList
    let find (path : String) : Found :=
      if path ∈ ["old/run.json", "new/run.json"] then .content document else .nothing
    let c : CommandLine := ⟨"new/run.json", ["old/run.json"], none, none, none, false, .auto⟩
    c.settings.baselineVariant = "new/run.json" ∧
      ∃ events r, Loading.report find c.settings c.inputs = (events, .ok r) ∧
        (∀ kind b, .uncompared (.missingBaseline kind b) ∉ r.diagnostics) ∧
        ∀ x ∈ r.comparisons, "new/run.json" ∈ x.series.map (·.variant) := by
  intro document find c
  have hok : (success? (Loading.report find c.settings c.inputs).2).isSome := by decide +kernel
  have hkinds : ∀ es, success? (Loading.load find c.input) = some es →
      (∃ m ∈ Entry.measurements es, m.kind = .encode) ∧ ∃ m ∈ Entry.measurements es, m.kind = .decode := by
    decide +kernel
  obtain ⟨r, hr⟩ := isSome_success?_iff.1 hok
  have h : Loading.report find c.settings c.inputs = ((Loading.report find c.settings c.inputs).1, .ok r) := by
    rw [← hr]
  obtain ⟨i, others, -, hi, hb, -, -, hmissing, hx⟩ := default_baseline_loaded (by decide) rfl h
  obtain ⟨henc, hdec⟩ := hkinds i.entries (by rw [hi, success?_ok])
  have hl : c.settings.baselineVariant = "new/run.json" := by decide +kernel
  exact ⟨hl, _, r, h, hmissing henc hdec, fun x hxr => hl ▸ hb ▸ (hx x hxr).2⟩

end CommandLine
end CodecBench
