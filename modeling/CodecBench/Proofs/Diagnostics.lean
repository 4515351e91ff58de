import CodecBench.Event
import CodecBench.Proofs.Comparison
/-!
Diagnostics: everything left out of a report has exactly one, and there are no others. They come in
three parts, the rejected entries of all inputs, the categories that are not reported, and the
comparisons that are not made, and they are what is logged as warnings (`Report.diagnostics_exactly`).
-/

namespace CodecBench

def Entry.rejection? (e : Entry) : Option Rejection :=
  if e.isAggregate then none else failure? (Measurement.ofEntry e)

theorem Entry.rejections_eq (es : List Entry) : rejections es = es.filterMap rejection? := by
  refine List.filterMap_congr fun e _ => ?_
  unfold Entry.read rejection?
  cases e.isAggregate with
  | true => rfl
  | false => cases Measurement.ofEntry e <;> rfl

def ComparisonFault.kind : ComparisonFault → Kind
  | .missingBaseline kind _ | .incomplete kind _ _ => kind

namespace Report

theorem skipped_of_verdict {s : Settings} {inputs : List Input} {name : String} {d : Diagnostic}
    (h : verdict s inputs name = .error d) : ∃ fault, d = .skipped name fault := by
  obtain ⟨rs, -, -, -, hr⟩ | ⟨fault, hf⟩ :=
    Category.report_cases s.baseline (Category.select (primary inputs) name)
  · rw [verdict, hr] at h
    cases h
  · exact ⟨fault, Except.error.inj (h.symm.trans hf)⟩

theorem exists_skips (s : Settings) (inputs : List Input) :
    ∃ skips : List (String × CategoryFault),
      (verdicts s inputs).filterMap failure? = skips.map (fun x => .skipped x.1 x.2) ∧
      skips.map Prod.fst =
        (Category.names (primary inputs)).filter (· ∉ (ofInputs s inputs).reported) := by
  have hn : (Category.names (primary inputs)).filter (· ∉ (ofInputs s inputs).reported) =
      (Category.names (primary inputs)).filter fun name => (success? (verdict s inputs name)).isNone := by
    refine List.filter_congr fun name hname => ?_
    simp only [reported_ofInputs, List.mem_filter]
    cases verdict s inputs name <;> simp [hname]
  rw [hn, verdicts_eq, List.filterMap_map]
  induction Category.names (primary inputs) with
  | nil => exact ⟨[], rfl, rfl⟩
  | cons name names ih =>
    obtain ⟨skips, hs, hf⟩ := ih
    cases h : verdict s inputs name with
    | ok r => exact ⟨skips, by simpa [List.filterMap_cons, h] using hs, by simpa [h] using hf⟩
    | error d =>
      obtain ⟨fault, rfl⟩ := skipped_of_verdict h
      exact ⟨(name, fault) :: skips, by simpa [List.filterMap_cons, h] using hs, by simpa [h] using hf⟩

theorem mem_diagnostics_skipped_iff {s : Settings} {inputs : List Input} {name : String}
    {fault : CategoryFault} : .skipped name fault ∈ (ofInputs s inputs).diagnostics ↔
      name ∈ Category.names (primary inputs) ∧ verdict s inputs name = .error (.skipped name fault) := by
  have h : .skipped name fault ∈ (ofInputs s inputs).diagnostics ↔
      .skipped name fault ∈ (verdicts s inputs).filterMap failure? := by
    simp [ofInputs]
  rw [h, verdicts_eq, List.mem_filterMap]
  simp only [failure?_eq_some_iff, exists_eq_right, List.mem_map]
  constructor
  · intro h'
    obtain ⟨other, hother, hv⟩ := h'
    obtain ⟨fault', hf⟩ := skipped_of_verdict hv
    cases hf
    exact ⟨hother, hv⟩
  · intro h'
    exact ⟨name, h'.1, h'.2⟩

theorem mem_diagnostics_uncompared_iff {s : Settings} {inputs : List Input} {fault : ComparisonFault} :
    .uncompared fault ∈ (ofInputs s inputs).diagnostics ↔ .error fault ∈ outcomes s inputs := by
  have hv : .uncompared fault ∉ (verdicts s inputs).filterMap failure? := by
    rw [verdicts_eq, List.mem_filterMap]
    intro h
    obtain ⟨v, hv, hf⟩ := h
    obtain ⟨name, -, rfl⟩ := List.mem_map.1 hv
    obtain ⟨fault', hd⟩ := skipped_of_verdict (failure?_eq_some_iff.1 hf)
    cases hd
  simp [ofInputs, hv, failure?_eq_some_iff]

theorem compare_cases {g : Grid} {b : String} (hb : b ∈ g.variants) (kind : Kind) :
    (∃ c, g.compare kind b = .ok c ∧ c.kind = kind) ∨
      ∃ v x, g.compare kind b = .error (.incomplete kind v x) := by
  cases h : g.compare kind b with
  | ok c => exact .inl ⟨c, rfl, (Grid.compare_eq_ok_iff.1 h).2.1⟩
  | error fault =>
    obtain ⟨v, x, rfl⟩ := Grid.exists_of_compare_eq_error hb h
    exact .inr ⟨v, x, rfl⟩

theorem comparison_faults (s : Settings) (inputs : List Input) :
    (∃ kind, (outcomes s inputs).filterMap failure? = [.missingBaseline kind s.baselineVariant] ∧
      (ofInputs s inputs).comparisons = []) ∨
    (∀ fault ∈ (outcomes s inputs).filterMap failure?, ∃ v x, fault = .incomplete fault.kind v x) ∧
      ((outcomes s inputs).filterMap failure?).map (·.kind) =
        [.encode, .decode].filter (· ∉ (ofInputs s inputs).comparisons.map (·.kind)) ∧
      (ofInputs s inputs).comparisons.length + ((outcomes s inputs).filterMap failure?).length = 2 := by
  obtain ⟨he, hd, ho⟩ | ⟨kind, -, -, ho⟩ := outcomes_cases s inputs
  · right
    rw [ofInputs, ho]
    rw [← mem_variants_grid] at he hd
    obtain ⟨c, hc, hck⟩ | ⟨v, x, hx⟩ := compare_cases he .encode <;>
      obtain ⟨c', hc', hck'⟩ | ⟨v', x', hx'⟩ := compare_cases hd .decode <;>
      simp_all [ComparisonFault.kind, List.filterMap_cons]
  · left
    rw [ofInputs, ho]
    exact ⟨kind, rfl, rfl⟩

theorem filter_warn_input (i : Input) :
    i.events.filter (·.level = .warn) =
      (Entry.rejections i.entries).map fun r => .diagnosed (.rejected r) := by
  simp [Input.events, List.filter_map, Function.comp_def, Event.level]

theorem filter_warn_setAside (inputs : List Input) :
    (setAsideEvents inputs).filter (·.level = .warn) = [] := by
  cases inputs <;> simp [setAsideEvents, List.filter_map, Function.comp_def, Event.level]

theorem filter_warn_verdict (v : Except Diagnostic CategoryReport) :
    (verdictEvents v).filter (·.level = .warn) = ((failure? v).map Event.diagnosed).toList := by
  cases v with
  | error d => rfl
  | ok c => simp [verdictEvents, Sample.events, List.filter_map, Function.comp_def, Event.level]

theorem filter_warn_verdicts (vs : List (Except Diagnostic CategoryReport)) :
    (vs.flatMap verdictEvents).filter (·.level = .warn) = (vs.filterMap failure?).map .diagnosed := by
  induction vs with
  | nil => rfl
  | cons v vs ih =>
    rw [List.flatMap_cons, List.filter_append, ih, filter_warn_verdict]
    cases v <;> simp [List.filterMap_cons]

theorem filter_warn_events (s : Settings) (inputs : List Input) :
    (events s inputs).filter (·.level = .warn) = (ofInputs s inputs).diagnostics.map .diagnosed := by
  have hi : (inputs.flatMap Input.events).filter (·.level = .warn) =
      (inputs.flatMap fun i => (Entry.rejections i.entries).map .rejected).map .diagnosed := by
    simp only [List.filter_flatMap, filter_warn_input, List.map_flatMap, List.map_map,
      Function.comp_def]
  have hf : ∀ faults : List ComparisonFault,
      (faults.map fun f => Event.diagnosed (.uncompared f)).filter (·.level = .warn) =
        (faults.map .uncompared).map .diagnosed := by
    simp [List.filter_map, Function.comp_def, Event.level]
  have hs : [(ofInputs s inputs).summary].filter (·.level = .warn) = [] := rfl
  rw [events, List.filter_append, hs, List.append_nil]
  simp only [List.filter_append, hi, filter_warn_setAside, filter_warn_verdicts, hf, List.append_nil,
    ofInputs, List.map_append]

/-- Everything that is left out is told once, in the diagnostics and in the warnings. -/
theorem diagnostics_exactly (s : Settings) (inputs : List Input) :
    (∃ (skips : List (String × CategoryFault)) (faults : List ComparisonFault),
      (ofInputs s inputs).diagnostics =
        ((inputs.flatMap (·.entries)).filterMap Entry.rejection?).map .rejected ++
          skips.map (fun x => .skipped x.1 x.2) ++ faults.map .uncompared ∧
      skips.map Prod.fst =
        ((Category.measured (primary inputs)).map (·.category)).eraseDups.filter
          (· ∉ (ofInputs s inputs).reported) ∧
      ((∃ kind, faults = [.missingBaseline kind s.baselineVariant] ∧
          (ofInputs s inputs).comparisons = []) ∨
        (∀ fault ∈ faults, ∃ v x, fault = .incomplete fault.kind v x) ∧
          faults.map (·.kind) =
            [.encode, .decode].filter (· ∉ (ofInputs s inputs).comparisons.map (·.kind)) ∧
          (ofInputs s inputs).comparisons.length + faults.length = 2)) ∧
    ((events s inputs).filter (·.level = .warn)).map (·.message) =
      (ofInputs s inputs).diagnostics.map (·.message) := by
  obtain ⟨skips, hs, hn⟩ := exists_skips s inputs
  refine ⟨⟨skips, (outcomes s inputs).filterMap failure?, ?_, hn, comparison_faults s inputs⟩, ?_⟩
  · have hr : inputs.flatMap (fun i => (Entry.rejections i.entries).map Diagnostic.rejected) =
        ((inputs.flatMap (·.entries)).filterMap Entry.rejection?).map .rejected := by
      simp only [Entry.rejections_eq, List.filterMap_flatMap, List.map_flatMap]
    simp only [ofInputs, hr, hs]
  · rw [filter_warn_events, List.map_map]
    rfl

end Report
end CodecBench
