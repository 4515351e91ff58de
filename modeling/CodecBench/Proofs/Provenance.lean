import CodecBench.Proofs.Cells
import CodecBench.Proofs.Verdict
/-!
Where the values of a comparison come from. Each relates the last measurement of its cell to the last one of
the baseline on its subject, whatever input they come from (`Report.value?_eq`). Their time units are not
looked at, so that times in different units are related to each other unless the measurements of a subject
happen to share one (`Report.unitsShared_iff`); only the reported categories of the first input are known to
be in nanoseconds.
-/

namespace CodecBench
namespace Report

def cell (s : Settings) (inputs : List Input) (kind : Kind) (subject variant : String) :
    List Measurement :=
  inputs.flatMap fun i => (Entry.measurements i.entries).filter fun m =>
    m.kind = kind ∧ s.source.subject m = subject ∧ s.source.variant i.label m = variant

def lastMeasured? (s : Settings) (inputs : List Input) (kind : Kind) (subject variant : String) :
    Option Measurement :=
  (cell s inputs kind subject variant).getLast?

def lastUnit? (s : Settings) (inputs : List Input) (kind : Kind) (subject variant : String) :
    Option String :=
  (lastMeasured? s inputs kind subject variant).map (·.timeUnit)

theorem map_cpuTime_cell (s : Settings) (inputs : List Input) (kind : Kind) (x v : String) :
    ((timings s inputs kind).filter fun t => t.subject = x ∧ t.variant = v).map (·.cpuTime) =
      (cell s inputs kind x v).map (·.cpuTime) := by
  simp only [timings, Grids.timings, cell, List.flatMap_map, List.filter_flatMap, List.map_flatMap,
    Grids.runTimings, List.filter_map, List.map_map, List.filter_filter, Input.run]
  apply List.flatMap_congr
  intro i _
  simp [Function.comp_def, Bool.and_comm]

theorem lastTime?_eq (s : Settings) (inputs : List Input) (kind : Kind) (x v : String) :
    lastTime? s inputs kind x v = (lastMeasured? s inputs kind x v).map (·.cpuTime) := by
  rw [lastTime?, Grid.lastTime?, lastMeasured?, ← List.getLast?_map, ← List.getLast?_map, map_cpuTime_cell]

theorem mem_cell_iff {s : Settings} {inputs : List Input} {kind : Kind} {x v : String} {m : Measurement} :
    m ∈ cell s inputs kind x v ↔ ∃ i ∈ inputs, m ∈ Entry.measurements i.entries ∧ m.kind = kind ∧
      s.source.subject m = x ∧ s.source.variant i.label m = v := by
  simp [cell]

section Values
variable {s : Settings} {inputs : List Input} {c : Comparison}

theorem value?_eq (h : c ∈ (ofInputs s inputs).comparisons) (x v : String) :
    c.value? x v = (lastMeasured? s inputs c.kind x s.baselineVariant).bind fun base =>
      (lastMeasured? s inputs c.kind x v).map fun m => relativeTo base.cpuTime m.cpuTime := by
  obtain ⟨-, -, -, hg⟩ := mem_comparisons_iff.1 h
  rw [Grid.value?_of_compare hg, get?_grid, get?_grid, lastTime?_eq, lastTime?_eq]
  cases lastMeasured? s inputs c.kind x s.baselineVariant with
  | none => rfl
  | some base => cases lastMeasured? s inputs c.kind x v <;> rfl

theorem value?_eq_some_iff (h : c ∈ (ofInputs s inputs).comparisons) {x v : String} {value : Float} :
    c.value? x v = some value ↔ ∃ m base, lastMeasured? s inputs c.kind x v = some m ∧
      lastMeasured? s inputs c.kind x s.baselineVariant = some base ∧
      value = relativeTo base.cpuTime m.cpuTime := by
  rw [value?_eq h]
  cases lastMeasured? s inputs c.kind x s.baselineVariant with
  | none => simp
  | some base =>
    cases lastMeasured? s inputs c.kind x v with
    | none => simp
    | some m => simp [eq_comm]

theorem exists_value?_iff (h : c ∈ (ofInputs s inputs).comparisons) {x v : String} :
    (∃ value, c.value? x v = some value) ↔ x ∈ c.subjects ∧ v ∈ c.series.map (·.variant) := by
  obtain ⟨-, -, -, hg⟩ := mem_comparisons_iff.1 h
  obtain ⟨-, -, -, hs, hv, -⟩ := Grid.compare_eq_ok_iff.1 hg
  constructor
  · intro h'
    obtain ⟨value, hval⟩ := h'
    rw [Grid.value?_of_compare hg, Option.bind_eq_some_iff] at hval
    obtain ⟨base, hbase, hval⟩ := hval
    obtain ⟨t, ht, -⟩ := Option.map_eq_some_iff.1 hval
    rw [hs, hv]
    exact ⟨Grid.mem_subjects_ofTimings.2 ⟨_, _, hbase⟩, Grid.mem_variants_iff.2 ⟨_, _, ht⟩⟩
  · intro h'
    obtain ⟨hx, hvar⟩ := h'
    exact Option.isSome_iff_exists.1 (Grid.isSome_value?_of_compare hg hx hvar)

end Values

/-- Every value relates times in one unit. -/
def UnitsShared (s : Settings) (inputs : List Input) : Prop :=
  ∀ c ∈ (ofInputs s inputs).comparisons, ∀ x v value, c.value? x v = some value →
    ∃ m base, lastMeasured? s inputs c.kind x v = some m ∧
      lastMeasured? s inputs c.kind x s.baselineVariant = some base ∧ m.timeUnit = base.timeUnit

theorem unitsShared_iff {s : Settings} {inputs : List Input} :
    UnitsShared s inputs ↔ ∀ c ∈ (ofInputs s inputs).comparisons, ∀ x ∈ c.subjects,
      ∀ v ∈ c.series.map (·.variant), ∀ w ∈ c.series.map (·.variant),
        lastUnit? s inputs c.kind x v = lastUnit? s inputs c.kind x w := by
  constructor
  · intro h c hc x hx
    have hbase : ∀ v ∈ c.series.map (·.variant),
        lastUnit? s inputs c.kind x v = lastUnit? s inputs c.kind x s.baselineVariant := by
      intro v hv
      obtain ⟨value, hval⟩ := (exists_value?_iff hc).2 ⟨hx, hv⟩
      obtain ⟨m, base, hm, hb, hu⟩ := h c hc x v value hval
      rw [lastUnit?, lastUnit?, hm, hb, Option.map_some, Option.map_some, hu]
    intro v hv w hw
    exact (hbase v hv).trans (hbase w hw).symm
  · intro h c hc x v value hval
    obtain ⟨m, base, hm, hb, -⟩ := (value?_eq_some_iff hc).1 hval
    obtain ⟨hx, hv⟩ := (exists_value?_iff hc).1 ⟨value, hval⟩
    have hu := h c hc x hx v hv s.baselineVariant (variants_of_mem_comparisons hc).2
    rw [lastUnit?, lastUnit?, hm, hb] at hu
    exact ⟨m, base, hm, hb, Option.some.inj hu⟩

theorem timeUnit_of_reported {s : Settings} {inputs : List Input} {m : Measurement}
    (hm : m ∈ primary inputs) (hk : m.kind.isMeasured)
    (hr : m.category ∈ (ofInputs s inputs).reported) : m.timeUnit = "ns" := by
  obtain ⟨-, h⟩ := mem_reported_iff.1 hr
  refine h.timeUnit m (List.mem_append.2 ?_)
  obtain he | hd := Kind.isMeasured_iff.1 hk
  · exact .inl (Category.mem_side_iff.2 ⟨hm, rfl, he⟩)
  · exact .inr (Category.mem_side_iff.2 ⟨hm, rfl, hd⟩)

/-- What a value is made of, when the times that are related have one unit, and where the unit is known: in the
reported categories of the first input, which a later input may overwrite. -/
theorem compared_units (s : Settings) (inputs : List Input) :
    (∀ c ∈ (ofInputs s inputs).comparisons, ∀ x v value, c.value? x v = some value ↔
      ∃ m base, lastMeasured? s inputs c.kind x v = some m ∧
        lastMeasured? s inputs c.kind x s.baselineVariant = some base ∧
        value = if base.cpuTime != 0.0 then m.cpuTime / base.cpuTime else 0.0) ∧
    (UnitsShared s inputs ↔ ∀ c ∈ (ofInputs s inputs).comparisons, ∀ x ∈ c.subjects,
      ∀ v ∈ c.series.map (·.variant), ∀ w ∈ c.series.map (·.variant),
        lastUnit? s inputs c.kind x v = lastUnit? s inputs c.kind x w) ∧
    ∀ kind x v m, kind.isMeasured → lastMeasured? s (inputs.take 1) kind x v = some m →
      m.category ∈ (ofInputs s inputs).reported → m.timeUnit = "ns" := by
  refine ⟨fun c hc x v value => value?_eq_some_iff hc, unitsShared_iff, fun kind x v m hk hm hr => ?_⟩
  obtain ⟨i, hi, hmi, hkind, -, -⟩ := mem_cell_iff.1 (List.mem_of_getLast? hm)
  have hp : m ∈ primary inputs := by
    cases inputs with
    | nil => simp at hi
    | cons first rest =>
      obtain rfl : i = first := by simpa using hi
      exact hmi
  exact timeUnit_of_reported hp (hkind ▸ hk) hr

/-- The second run gives the same times in microseconds, and its values are made from both runs without a
word about it. -/
theorem compared_units_two_runs :
    let entries (unit : String) : List Entry :=
      [⟨"a/Encode_X", some 4.0, some unit, none, none⟩, ⟨"a/Decode_X", some 1.0, some unit, none, none⟩]
    let s : Settings := ⟨.first, "old", .runs, false⟩
    let inputs : List Input := [⟨"old", entries "ns"⟩, ⟨"new", entries "us"⟩]
    (ofInputs s inputs).diagnostics.length = 0 ∧
      ∃ c ∈ (ofInputs s inputs).comparisons, c.kind = .encode ∧ ∃ m base : Measurement,
        c.value? "a/X" "new" = some (m.cpuTime / base.cpuTime) ∧ m.timeUnit = "us" ∧ base.timeUnit = "ns" := by
  intro entries s inputs
  obtain ⟨hv, -, hu⟩ := compared_units s inputs
  obtain ⟨c, hc, hk⟩ : ∃ c ∈ (ofInputs s inputs).comparisons, c.kind = .encode :=
    exists_comparison_iff.2 ⟨rfl, by decide +kernel, by decide +kernel, by decide +kernel⟩
  obtain ⟨hx, hn⟩ : "a/X" ∈ c.subjects ∧ "new" ∈ c.series.map (·.variant) := by
    revert c
    decide +kernel
  have hold : ∀ base, lastMeasured? s inputs .encode "a/X" "old" = some base →
      (base.cpuTime != 0.0) ∧ base.category = "a" := by
    decide +kernel
  have hnew : ∀ m, lastMeasured? s inputs .encode "a/X" "new" = some m → m.timeUnit = "us" := by
    decide +kernel
  obtain ⟨value, hvalue⟩ := (exists_value?_iff hc).2 ⟨hx, hn⟩
  obtain ⟨m, base, hm, hb, rfl⟩ := (hv c hc "a/X" "new" value).1 hvalue
  rw [hk] at hm hb
  obtain ⟨hb0, hcat⟩ := hold base hb
  refine ⟨by decide +kernel, c, hc, hk, m, base, by rw [hvalue, if_pos hb0], hnew m hm, ?_⟩
  apply hu .encode "a/X" "old" base rfl hb
  rw [hcat]
  decide +kernel

def mixedUnits : List Input :=
  [⟨"run", [⟨"a/Encode_X", some 4.0, some "ns", none, none⟩, ⟨"a/Encode_Y", some 1.0, some "us", none, none⟩,
    ⟨"a/Decode_X", some 4.0, some "ns", none, none⟩, ⟨"a/Decode_Y", some 1.0, some "us", none, none⟩]⟩]

/-- The category is skipped for its units and compared all the same. -/
theorem not_unitsShared_mixedUnits :
    ¬ UnitsShared ⟨.first, "X", .algorithms, false⟩ mixedUnits ∧
      "a" ∉ (ofInputs ⟨.first, "X", .algorithms, false⟩ mixedUnits).reported := by
  constructor
  · rw [unitsShared_iff]
    decide +kernel
  · intro h
    have hu : ¬ ∀ m ∈ (Category.select (primary mixedUnits) "a").all, m.timeUnit = "ns" := by
      decide +kernel
    exact hu (mem_reported_iff.1 h).2.timeUnit

end Report
end CodecBench
