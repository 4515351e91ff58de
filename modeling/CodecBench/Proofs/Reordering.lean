import CodecBench.Proofs.Cells
import CodecBench.Proofs.Diagnostics
import CodecBench.Proofs.Isolation
import CodecBench.Proofs.Overall
/-!
Reordering the entries of an input. While the names of its entries are distinct, the order in which they
stand shows in the order of a report and in the last digits of its means, and in nothing else
(`Report.sameResults_of_shuffled`). Sorting by algorithm forgets it within a category, and a cell of a grid
gets at most one time from each input.
-/

namespace CodecBench

structure Input.Shuffled (i j : Input) : Prop where
  label : i.label = j.label
  entries : i.entries.Perm j.entries

theorem VariantSource.name_eq_of_cell {source : VariantSource} {label : String} {es : List Entry}
    {m n : Measurement} (hm : m ∈ Entry.measurements es) (hn : n ∈ Entry.measurements es)
    (hk : m.kind = n.kind) (hs : source.subject m = source.subject n)
    (hv : source.variant label m = source.variant label n) : m.name = n.name := by
  cases source with
  | algorithms =>
    have hc : m.category = n.category := hs
    have ha : m.algorithm = n.algorithm := hv
    rw [Measurement.name, Measurement.name, hc, hk, ha]
  | runs =>
    obtain ⟨e, -, -, he⟩ := Entry.mem_measurements_iff.1 hm
    obtain ⟨f, -, -, hf⟩ := Entry.mem_measurements_iff.1 hn
    obtain ⟨hc, ha⟩ := runs_subject_injective he hf hs
    rw [Measurement.name, Measurement.name, hc, hk, ha]

namespace Input

theorem Shuffled.measurements {i j : Input} (h : i.Shuffled j) :
    (Entry.measurements i.entries).Perm (Entry.measurements j.entries) :=
  h.entries.filterMap _

theorem Shuffled.filter_runTimings {i j : Input} (h : i.Shuffled j) (hd : (Entry.names i.entries).Nodup)
    (source : VariantSource) (kind : Kind) (s v : String) :
    (Grids.runTimings source kind i.run).filter (fun x => x.subject = s ∧ x.variant = v) =
      (Grids.runTimings source kind j.run).filter fun x => x.subject = s ∧ x.variant = v := by
  have hl : j.run.label = i.run.label := h.label.symm
  simp only [Grids.runTimings, hl, List.filter_map, List.filter_filter]
  congr 1
  refine filter_eq_of_perm h.measurements (Entry.nodup_map_name hd) fun m hm n hn hpm hpn => ?_
  simp only [Function.comp_apply, Bool.and_eq_true, decide_eq_true_eq] at hpm hpn
  obtain ⟨⟨hms, hmv⟩, hmk⟩ := hpm
  obtain ⟨⟨hns, hnv⟩, hnk⟩ := hpn
  exact VariantSource.name_eq_of_cell hm hn (hmk.trans hnk.symm) (hms.trans hns.symm)
    (hmv.trans hnv.symm)

end Input

namespace Category
variable {ms ns : List Measurement}

theorem nodup_algorithm_side (h : (ms.map (·.name)).Nodup) (kind : Kind) (c : String) :
    ((side kind c ms).map (·.algorithm)).Nodup := by
  have hs : ((side kind c ms).map (·.name)).Nodup := h.sublist (List.filter_sublist.map _)
  have hn : (side kind c ms).map (·.name) =
      ((side kind c ms).map (·.algorithm)).map fun a => ⟨c, kind, a⟩ := by
    rw [List.map_map]
    refine List.map_congr_left fun m hm => ?_
    obtain ⟨-, rfl, rfl⟩ := mem_side_iff.1 hm
    rfl
  rw [hn] at hs
  exact hs.of_map

theorem report_select_eq_of_perm (h : ms.Perm ns) (hd : (ms.map (·.name)).Nodup) (b : Baseline)
    (c : String) : (select ms c).report b = (select ns c).report b := by
  have hs : ∀ kind, sortByAlgorithm (side kind c ms) = sortByAlgorithm (side kind c ns) := fun kind =>
    sortByAlgorithm_eq_of_perm (h.filter _) (nodup_algorithm_side hd kind c)
  exact report_congr rfl (hs .encode) (hs .decode)

theorem names_perm (h : ms.Perm ns) : (names ms).Perm (names ns) :=
  eraseDups_perm fun _ => ((h.filter _).map _).mem_iff

end Category

def Standing.counts (x : Standing) : String × Option Nat × Option Nat :=
  (x.algorithm, x.encode.map (·.samples), x.decode.map (·.samples))

def Diagnostic.fault? : Diagnostic → Option ComparisonFault
  | .uncompared fault => some fault
  | _ => none

namespace Report

/-- Two reports say the same, up to order and but for the means. -/
structure SameResults (r r' : Report) : Prop where
  categories : r.categories.Perm r'.categories
  diagnostics : (r.diagnostics.filter (·.fault?.isNone)).Perm (r'.diagnostics.filter (·.fault?.isNone))
  overall : (r.overall.map (·.counts)).Perm (r'.overall.map (·.counts))
  comparisons : List.Forall₂ Comparison.Alike r.comparisons r'.comparisons
  faults : List.Forall₂ ComparisonFault.Alike (r.diagnostics.filterMap (·.fault?))
    (r'.diagnostics.filterMap (·.fault?))

theorem counts_standings_perm {cs ds : List CategoryReport} (h : cs.Perm ds)
    (hc : ∀ c ∈ cs, c.Parallel) :
    ((standings cs).map (·.counts)).Perm ((standings ds).map (·.counts)) := by
  have hd : ∀ d ∈ ds, d.Parallel := fun d hm => hc d (h.mem_iff.2 hm)
  have hs : ∀ kind a, (meanOf? (CategoryReport.counted cs kind a)).map (·.samples) =
      (meanOf? (CategoryReport.counted ds kind a)).map (·.samples) := by
    intro kind a
    have hp : (CategoryReport.counted cs kind a).Perm (CategoryReport.counted ds kind a) :=
      ((h.flatMap_right _).filter _).map _
    rw [map_samples_meanOf?, map_samples_meanOf?, hp.length_eq]
  rw [standings_eq hc, standings_eq hd, List.map_map, List.map_map]
  refine ((eraseDups_perm fun a => (h.flatMap_right _).mem_iff).map _).trans
    (.of_eq (List.map_congr_left fun a _ => ?_))
  simp only [Function.comp_apply, Standing.counts, hs]

theorem fault?_of_mem_skips {s : Settings} {inputs : List Input} {d : Diagnostic}
    (h : d ∈ (verdicts s inputs).filterMap failure?) : d.fault? = none := by
  rw [verdicts_eq, List.filterMap_map, List.mem_filterMap] at h
  obtain ⟨c, -, hc⟩ := h
  obtain ⟨fault, rfl⟩ := skipped_of_verdict (failure?_eq_some_iff.1 hc)
  rfl

theorem fault?_of_mem_rejected {inputs : List Input} {d : Diagnostic}
    (h : d ∈ inputs.flatMap fun i => (Entry.rejections i.entries).map .rejected) : d.fault? = none := by
  obtain ⟨i, -, hi⟩ := List.mem_flatMap.1 h
  obtain ⟨r, -, rfl⟩ := List.mem_map.1 hi
  rfl

theorem filter_diagnostics (s : Settings) (inputs : List Input) :
    (ofInputs s inputs).diagnostics.filter (·.fault?.isNone) =
      inputs.flatMap (fun i => (Entry.rejections i.entries).map .rejected) ++
        (verdicts s inputs).filterMap failure? := by
  simp only [ofInputs, List.filter_append]
  rw [List.filter_eq_self.2 fun d hd => by rw [fault?_of_mem_rejected hd]; rfl,
    List.filter_eq_self.2 fun d hd => by rw [fault?_of_mem_skips hd]; rfl,
    List.filter_eq_nil_iff.2, List.append_nil]
  intro d hd
  obtain ⟨fault, -, rfl⟩ := List.mem_map.1 hd
  simp [Diagnostic.fault?]

theorem filterMap_diagnostics (s : Settings) (inputs : List Input) :
    (ofInputs s inputs).diagnostics.filterMap (·.fault?) = (outcomes s inputs).filterMap failure? := by
  simp only [ofInputs, List.filterMap_append]
  rw [List.filterMap_eq_nil_iff.2 fun d hd => fault?_of_mem_rejected hd,
    List.filterMap_eq_nil_iff.2 fun d hd => fault?_of_mem_skips hd]
  simp [List.filterMap_map, Diagnostic.fault?]

section Shuffled
variable {inputs others : List Input} (h : List.Forall₂ Input.Shuffled inputs others)
  (hd : ∀ i ∈ inputs, (Entry.names i.entries).Nodup)
include h

theorem rejections_perm :
    (inputs.flatMap fun i => (Entry.rejections i.entries).map Diagnostic.rejected).Perm
      (others.flatMap fun i => (Entry.rejections i.entries).map Diagnostic.rejected) := by
  induction h with
  | nil => exact .nil
  | cons hi _ ih => exact ((hi.entries.filterMap _).map _).append ih

theorem primary_perm : (primary inputs).Perm (primary others) := by
  cases h with
  | nil => exact .nil
  | cons hi _ => exact hi.measurements

include hd

theorem nodup_primary : ((primary inputs).map (·.name)).Nodup := by
  cases h with
  | nil => exact .nil
  | cons hi _ => exact Entry.nodup_map_name (hd _ (by simp))

theorem verdict_shuffled (s : Settings) (c : String) : verdict s inputs c = verdict s others c :=
  Category.report_select_eq_of_perm (primary_perm h) (nodup_primary h hd) s.baseline c

theorem verdicts_perm (s : Settings) : (verdicts s inputs).Perm (verdicts s others) := by
  have hv : verdict s inputs = verdict s others := funext fun c => verdict_shuffled h hd s c
  rw [verdicts_eq, verdicts_eq, hv]
  exact (Category.names_perm (primary_perm h)).map _

theorem lastTime?_shuffled (s : Settings) (kind : Kind) (x v : String) :
    lastTime? s inputs kind x v = lastTime? s others kind x v := by
  have hf : (timings s inputs kind).filter (fun t => t.subject = x ∧ t.variant = v) =
      (timings s others kind).filter fun t => t.subject = x ∧ t.variant = v := by
    simp only [timings, Grids.timings]
    -- Input by input: the names are distinct within each, and the inputs keep their order.
    induction h with
    | nil => rfl
    | cons hi _ ih =>
      simp only [List.map_cons, List.flatMap_cons, List.filter_append]
      rw [hi.filter_runTimings (hd _ (by simp)), ih fun i hi => hd i (by simp [hi])]
  rw [lastTime?, lastTime?, Grid.lastTime?, Grid.lastTime?, hf]

theorem outcomes_alike (s : Settings) :
    List.Forall₂ OutcomesAlike (outcomes s inputs) (outcomes s others) := by
  have hg : ∀ kind x v, (grid s inputs kind).get? x v = (grid s others kind).get? x v := by
    intro kind x v
    rw [get?_grid, get?_grid, lastTime?_shuffled h hd]
  have hv : ∀ kind, s.baselineVariant ∈ variants s inputs kind ↔
      s.baselineVariant ∈ variants s others kind := by
    intro kind
    rw [← mem_variants_grid, ← mem_variants_grid]
    exact Grid.mem_variants_congr (hg kind) _
  rw [outcomes_eq, outcomes_eq]
  simp only [hv]
  split
  · split
    · exact .cons (Grid.compare_alike (hg .encode) _ _)
        (.cons (Grid.compare_alike (hg .decode) _ _) .nil)
    · exact .cons (.error (.missingBaseline _ _)) .nil
  · exact .cons (.error (.missingBaseline _ _)) .nil

end Shuffled

/-- Inputs whose entries have distinct names give the same results in any order of the entries. -/
theorem sameResults_of_shuffled (s : Settings) {inputs others : List Input}
    (h : List.Forall₂ Input.Shuffled inputs others)
    (hd : ∀ i ∈ inputs, (Entry.names i.entries).Nodup) :
    (ofInputs s inputs).SameResults (ofInputs s others) := by
  have hv : (verdicts s inputs).Perm (verdicts s others) := verdicts_perm h hd s
  have ho : List.Forall₂ OutcomesAlike (outcomes s inputs) (outcomes s others) := outcomes_alike h hd s
  constructor
  case categories => exact hv.filterMap _
  case diagnostics =>
    rw [filter_diagnostics, filter_diagnostics]
    exact (rejections_perm h).append (hv.filterMap _)
  case overall => exact counts_standings_perm (hv.filterMap _) fun c hc => parallel_of_mem hc
  case comparisons => exact List.rel_filterMap (fun _ _ hxy => hxy.success?) ho
  case faults =>
    rw [filterMap_diagnostics, filterMap_diagnostics]
    exact List.rel_filterMap (fun _ _ hxy => hxy.failure?) ho

/-- Two runs, the entries of one reversed and two of the other swapped. -/
theorem sameResults_of_reversed :
    let entry (name : String) (t : Float) : Entry := ⟨name, t, "ns", none, none⟩
    let a := entry "a/Encode_X" 4.0
    let b := entry "a/Decode_X" 1.0
    let c := entry "a/Encode_Y" 2.0
    let d := entry "a/Decode_Y" 3.0
    let s : Settings := ⟨.named "X", "old", .runs, false⟩
    (ofInputs s [⟨"old", [a, b, c, d]⟩, ⟨"new", [c, d, a, b]⟩]).SameResults
      (ofInputs s [⟨"old", [d, c, b, a]⟩, ⟨"new", [d, c, a, b]⟩]) := by
  intro entry a b c d s
  have old : Input.Shuffled ⟨"old", [a, b, c, d]⟩ ⟨"old", [d, c, b, a]⟩ :=
    ⟨rfl, (List.reverse_perm [a, b, c, d]).symm⟩
  have new : Input.Shuffled ⟨"new", [c, d, a, b]⟩ ⟨"new", [d, c, a, b]⟩ := ⟨rfl, .swap d c [a, b]⟩
  refine sameResults_of_shuffled s (.cons old (.cons new .nil)) ?_
  intro i hi
  simp only [List.mem_cons, List.not_mem_nil, or_false] at hi
  obtain rfl | rfl := hi
  · decide
  · decide

end Report
end CodecBench
