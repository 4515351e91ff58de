import CodecBench.Proofs.CommandLine
import CodecBench.Proofs.Underflow
import CodecBench.Proofs.VariantOrder
/-!
A run compared with copies of itself. Under labels of their own the copies have the same last time on every subject
(`Report.lastTime?_copies`), so that no cell is without one, and each value relates a time to itself. That makes one,
or zero where no time was taken (`Report.copies_compared`).
-/

namespace CodecBench

def Entry.subjects (es : List Entry) (kind : Kind) : List String :=
  ((Entry.measurements es).filter fun m => m.kind = kind).map VariantSource.runs.subject

def Entry.lastTime? (es : List Entry) (kind : Kind) (subject : String) : Option Float :=
  (((Entry.measurements es).filter fun m => m.kind = kind ∧ VariantSource.runs.subject m = subject).getLast?).map
    (·.cpuTime)

theorem Entry.isFinite_of_lastTime? {es : List Entry} {kind : Kind} {subject : String} {t : Float}
    (h : lastTime? es kind subject = some t) : t.isFinite := by
  obtain ⟨m, hm, rfl⟩ := Option.map_eq_some_iff.1 h
  exact isFinite_of_isDuration (isDuration_of_mem (List.mem_filter.1 (List.mem_of_getLast? hm)).1)

theorem Entry.exists_lastTime?_iff_mem_subjects {es : List Entry} {kind : Kind} {subject : String} :
    (∃ t, lastTime? es kind subject = some t) ↔ subject ∈ subjects es kind := by
  rw [← Option.isSome_iff_exists, lastTime?, Option.isSome_map, List.getLast?_isSome, ne_eq, List.filter_eq_nil_iff]
  simp [subjects, and_assoc]

/-- A time relates to itself as one, but as zero if it is zero. -/
theorem relativeTo_self {t : Float} (ht : t.isFinite) : relativeTo t t = if t != 0.0 then 1.0 else 0.0 := by
  rw [relativeTo]
  split
  · rename_i h0
    exact div_self_eq_one ht h0
  · rfl

theorem Grids.lastTime?_singleton (label : String) (es : List Entry) (kind : Kind) (subject : String) :
    Grid.lastTime? (timings .runs kind [⟨label, Entry.measurements es⟩]) subject label =
      Entry.lastTime? es kind subject := by
  simp [Grid.lastTime?, timings, runTimings, VariantSource.variant, Entry.lastTime?, List.filter_map,
    List.filter_filter, List.getLast?_map, Function.comp_def, Bool.and_comm]

namespace Report

section Copies
variable {s : Settings} {inputs : List Input} {es : List Entry} (hs : s.source = .runs)
  (hi : ∀ i ∈ inputs, i.entries = es)
include hs hi

theorem lastTime?_copies (hn : (inputs.map (·.label)).Nodup) {label : String} (hl : label ∈ inputs.map (·.label))
    (kind : Kind) (subject : String) : lastTime? s inputs kind subject label = Entry.lastTime? es kind subject := by
  obtain ⟨i, him, rfl⟩ := List.mem_map.1 hl
  have hn' : ((inputs.map Input.run).map (·.label)).Nodup := by
    rw [List.map_map]
    exact hn
  have ht := Grids.lastTime?_timings hn' (List.mem_map_of_mem him) kind subject
  rw [lastTime?, timings, hs]
  exact ht.trans (hi i him ▸ Grids.lastTime?_singleton i.label i.entries kind subject)

theorem timings_copies (kind : Kind) :
    timings s inputs kind = inputs.flatMap fun i => Grids.runTimings .runs kind ⟨i.label, Entry.measurements es⟩ := by
  rw [timings, Grids.timings, hs, List.flatMap_map]
  refine List.flatMap_congr fun i him => ?_
  rw [Input.run, hi i him]

theorem subjects_copies (hne : inputs ≠ []) (kind : Kind) :
    (subjects s inputs kind).eraseDups = (Entry.subjects es kind).eraseDups := by
  rw [subjects, timings_copies hs hi, List.map_flatMap]
  simp only [Grids.runTimings, List.map_map]
  exact eraseDups_flatMap_const hne (Entry.subjects es kind)

theorem entered_copies (hn : (inputs.map (·.label)).Nodup) {kind : Kind} {subject : String}
    (hx : subject ∈ Entry.subjects es kind) :
    (Grid.entered (timings s inputs kind) subject).eraseDups = inputs.map (·.label) := by
  have hne : (Entry.measurements es).filter (fun m => m.kind = kind ∧ VariantSource.runs.subject m = subject) ≠ [] := by
    obtain ⟨m, hm, hms⟩ := List.mem_map.1 hx
    obtain ⟨hm, hk⟩ := List.mem_filter.1 hm
    exact List.ne_nil_of_mem (List.mem_filter.2 ⟨hm, by simpa [hms] using hk⟩)
  calc (Grid.entered (timings s inputs kind) subject).eraseDups
      = (inputs.flatMap fun i => ((Entry.measurements es).filter fun m =>
          m.kind = kind ∧ VariantSource.runs.subject m = subject).flatMap fun _ => [i.label]).eraseDups := by
        rw [Grid.entered, timings_copies hs hi, List.filter_flatMap, List.map_flatMap]
        simp [Grids.runTimings, List.filter_map, List.filter_filter, Function.comp_def, VariantSource.variant,
          ← List.map_eq_flatMap, Bool.and_comm]
    _ = (inputs.flatMap fun i => [i.label]).eraseDups :=
        eraseDups_flatMap_congr fun i _ => eraseDups_flatMap_const hne [i.label]
    _ = inputs.map (·.label) := by
        rw [← List.map_eq_flatMap, eraseDups_eq_self hn]

theorem mem_variants_copies {kind : Kind} {m : Measurement} (hm : m ∈ Entry.measurements es) (hk : m.kind = kind)
    {v : String} : v ∈ variants s inputs kind ↔ v ∈ inputs.map (·.label) := by
  constructor
  · intro hv
    obtain ⟨x, hx, rfl⟩ := List.mem_map.1 hv
    rw [timings_copies hs hi, List.mem_flatMap] at hx
    obtain ⟨i, him, hx⟩ := hx
    obtain ⟨n, -, rfl⟩ := List.mem_map.1 hx
    exact List.mem_map_of_mem him
  · intro hv
    obtain ⟨i, him, rfl⟩ := List.mem_map.1 hv
    exact label_mem_variants hs him (hi i him ▸ hm) hk

section Compared
variable (hn : (inputs.map (·.label)).Nodup) {kind : Kind}
include hn

theorem exists_compare_copies {b : String} (hb : b ∈ inputs.map (·.label))
    (hm : ∃ m ∈ Entry.measurements es, m.kind = kind) : ∃ c, (grid s inputs kind).compare kind b = .ok c := by
  obtain ⟨m, hm, hk⟩ := hm
  have hne : inputs ≠ [] := by
    rintro rfl
    simp at hb
  rw [Grid.exists_compare_iff, mem_variants_grid, mem_variants_copies hs hi hm hk]
  refine ⟨hb, fun x hx v hv => ?_⟩
  rw [mem_variants_grid, mem_variants_copies hs hi hm hk] at hv
  rw [subjects_grid, subjects_copies hs hi hne, List.mem_eraseDups] at hx
  rw [get?_grid, lastTime?_copies hs hi hn hv]
  exact Entry.exists_lastTime?_iff_mem_subjects.2 hx

/-- What copies are compared with makes no difference, nor does which of them is. -/
theorem series_of_compare_copies {b : String} {c : Comparison} (h : (grid s inputs kind).compare kind b = .ok c)
    (hb : b ∈ inputs.map (·.label)) :
    c.subjects = (Entry.subjects es kind).eraseDups ∧
    ∃ values, c.series = inputs.map (fun i => ⟨i.label, values⟩) ∧
      List.Forall₂ (fun x value => ∃ t, Entry.lastTime? es kind x = some t ∧ value = relativeTo t t)
        c.subjects values := by
  obtain ⟨-, -, -, hsub, -, hx⟩ := Grid.compare_eq_ok_iff.1 h
  have hne : inputs ≠ [] := by
    rintro rfl
    simp at hb
  have hsubjects : c.subjects = (Entry.subjects es kind).eraseDups := by
    rw [hsub, subjects_grid, subjects_copies hs hi hne]
  obtain ⟨x, hxh, hxv⟩ := Grid.series_of_compare h
  have hlabels : c.series.map (·.variant) = inputs.map (·.label) := by
    have hxs : x ∈ Entry.subjects es kind := by
      rw [← List.mem_eraseDups, ← hsubjects]
      exact List.mem_of_mem_head? hxh
    rw [hxv]
    exact entered_copies hs hi hn hxs
  have hvalues : ∀ y ∈ c.series, List.Forall₂ (fun x value => ∃ t, Entry.lastTime? es kind x = some t ∧
      value = relativeTo t t) c.subjects y.values := by
    intro y hy
    have hyl : y.variant ∈ inputs.map (·.label) := hlabels ▸ List.mem_map_of_mem hy
    rw [hsub]
    refine (hx y hy).imp fun x value hr => ?_
    obtain ⟨base, t, hbase, ht, hv⟩ := Grid.ratio_eq_ok_iff.1 hr
    rw [get?_grid, lastTime?_copies hs hi hn hb] at hbase
    rw [get?_grid, lastTime?_copies hs hi hn hyl, hbase] at ht
    obtain rfl := Option.some.inj ht
    exact ⟨base, hbase, hv⟩
  obtain ⟨first, hfirst, -⟩ := List.mem_map.1 (hlabels ▸ hb)
  -- A time relates to itself in one way, so that all series have the values of this one.
  have hunique : Relator.RightUnique fun x value => ∃ t, Entry.lastTime? es kind x = some t ∧
      value = relativeTo t t := by
    intro x v w hv hw
    obtain ⟨t, ht, rfl⟩ := hv
    obtain ⟨u, hu, rfl⟩ := hw
    rw [Option.some.inj (ht.symm.trans hu)]
  refine ⟨hsubjects, first.values, ?_, hvalues first hfirst⟩
  calc c.series = c.series.map fun y => ⟨y.variant, first.values⟩ := by
        refine (List.map_id' c.series).symm.trans (List.map_congr_left fun y hy => ?_)
        rw [← hunique.forall₂ (hvalues y hy) (hvalues first hfirst)]
    _ = (c.series.map (·.variant)).map fun v => ⟨v, first.values⟩ := by rw [List.map_map]; rfl
    _ = inputs.map fun i => ⟨i.label, first.values⟩ := by rw [hlabels, List.map_map]; rfl

end Compared
end Copies

/-- A run is compared with copies of itself, whichever of them is the baseline: in both directions, without anything
to tell, and with one series for each copy. All series of a direction are alike, as they relate the last time on each
subject to itself. -/
theorem copies_compared {s : Settings} {inputs : List Input} {es : List Entry} (hs : s.source = .runs)
    (hi : ∀ i ∈ inputs, i.entries = es) (hn : (inputs.map (·.label)).Nodup)
    (hb : s.baselineVariant ∈ inputs.map (·.label)) (he : ∃ m ∈ Entry.measurements es, m.kind = .encode)
    (hd : ∃ m ∈ Entry.measurements es, m.kind = .decode) :
    let r := ofInputs s inputs
    r.comparisons.map (·.kind) = [.encode, .decode] ∧ (∀ fault, .uncompared fault ∉ r.diagnostics) ∧
    ∀ c ∈ r.comparisons, c.baseline = s.baselineVariant ∧
      c.subjects = (Entry.subjects es c.kind).eraseDups ∧
      ∃ values, c.series = inputs.map (fun i => ⟨i.label, values⟩) ∧
        List.Forall₂ (fun x value => ∃ t, Entry.lastTime? es c.kind x = some t ∧
          value = (if t != 0.0 then t / t else 0.0) ∧ (t != 0.0 → value = 1.0)) c.subjects values := by
  intro r
  obtain ⟨ce, hce⟩ := exists_compare_copies hs hi hn hb he
  obtain ⟨cd, hcd⟩ := exists_compare_copies hs hi hn hb hd
  have ho : outcomes s inputs = [.ok ce, .ok cd] := by
    obtain ⟨m, hm, hmk⟩ := he
    obtain ⟨n, hnm, hnk⟩ := hd
    rw [outcomes_eq, if_pos ((mem_variants_copies hs hi hm hmk).2 hb),
      if_pos ((mem_variants_copies hs hi hnm hnk).2 hb), hce, hcd]
  refine ⟨?_, fun fault hf => ?_, fun c hc => ?_⟩
  · have hr : r.comparisons = [ce, cd] := by
      change (outcomes s inputs).filterMap success? = _
      rw [ho]
      rfl
    rw [hr, List.map_cons, List.map_cons, List.map_nil, (Grid.compare_eq_ok_iff.1 hce).2.1,
      (Grid.compare_eq_ok_iff.1 hcd).2.1]
  · rw [mem_diagnostics_uncompared_iff, ho] at hf
    simp at hf
  · obtain ⟨-, -, -, hg⟩ := mem_comparisons_iff.1 hc
    obtain ⟨hsubjects, values, hseries, hvalues⟩ := series_of_compare_copies hs hi hn hg hb
    refine ⟨(Grid.compare_eq_ok_iff.1 hg).2.2.1, hsubjects, values, hseries, hvalues.imp fun x value h => ?_⟩
    obtain ⟨t, ht, rfl⟩ := h
    refine ⟨t, ht, rfl, fun h0 => ?_⟩
    rw [relativeTo_self (Entry.isFinite_of_lastTime? ht), if_pos h0]

/-- A run and two copies of it. It encodes twice with one algorithm, the second time in no time. -/
theorem copies_compared_three :
    let es : List Entry := [⟨"a/Encode_X", some 4.0, some "ns", none, none⟩,
      ⟨"a/Encode_Y", some 2.0, some "ns", none, none⟩, ⟨"a/Encode_X", some 0.0, some "ns", none, none⟩,
      ⟨"a/Decode_X", some 1.0, some "ns", none, none⟩]
    let inputs : List Input := [⟨"run", es⟩, ⟨"copy", es⟩, ⟨"again", es⟩]
    let r := ofInputs ⟨.first, "copy", .runs, false⟩ inputs
    (∀ fault, .uncompared fault ∉ r.diagnostics) ∧ ∃ c ∈ r.comparisons, c.kind = .encode ∧
      c.subjects = ["a/X", "a/Y"] ∧
      c.series = [⟨"run", [0.0, 1.0]⟩, ⟨"copy", [0.0, 1.0]⟩, ⟨"again", [0.0, 1.0]⟩] := by
  intro es inputs r
  obtain ⟨hk, hd, hc⟩ := @copies_compared ⟨.first, "copy", .runs, false⟩ inputs es rfl (by simp [inputs])
    (by decide) (by decide) (by decide +kernel) (by decide +kernel)
  obtain ⟨c, hcr, hck⟩ : ∃ c ∈ r.comparisons, c.kind = .encode := by
    have hmem : Kind.encode ∈ r.comparisons.map (·.kind) := hk ▸ List.mem_cons_self
    exact List.mem_map.1 hmem
  obtain ⟨-, hs, values, hseries, hvalues⟩ := hc c hcr
  rw [hck] at hs hvalues
  have hsubjects : c.subjects = ["a/X", "a/Y"] := hs.trans (by decide +kernel)
  have hX : Entry.lastTime? es .encode "a/X" = some 0.0 := by decide +kernel
  have hY : Entry.lastTime? es .encode "a/Y" = some 2.0 := by decide +kernel
  have hv : values = [0.0, 1.0] := by
    rw [hsubjects, List.forall₂_cons_left_iff] at hvalues
    obtain ⟨x, xs, ⟨t, ht, hx, -⟩, hxs, rfl⟩ := hvalues
    obtain ⟨y, ys, ⟨u, hu, -, hy⟩, hys, rfl⟩ := List.forall₂_cons_left_iff.1 hxs
    obtain rfl := Option.some.inj (hX.symm.trans ht)
    obtain rfl := Option.some.inj (hY.symm.trans hu)
    rw [List.forall₂_nil_left_iff.1 hys, hx, hy (by decide +kernel), if_neg (by decide +kernel)]
  refine ⟨hd, c, hcr, hck, hsubjects, ?_⟩
  rw [hseries, hv]
  rfl

end Report
end CodecBench
