import CodecBench.Proofs.Category
import CodecBench.Proofs.Pairing
import CodecBench.Proofs.Ratio
import CodecBench.Report
/-!
Verdicts: a category is reported exactly if its two directions hold the same algorithms, all its
measurements share one label and are in nanoseconds, and the baseline is among its algorithms
(`Category.exists_report_iff`). A report names the categories of its first input that meet this, each
once and first-seen first (`Report.reported_exactly`).
-/

namespace CodecBench

/-- The lists of a category report go together position by position. -/
structure CategoryReport.Parallel (c : CategoryReport) : Prop where
  encode_algorithms : c.pairing.encode.map (·.algorithm) = c.pairing.algorithms
  decode_algorithms : c.pairing.decode.map (·.algorithm) = c.pairing.algorithms
  encode_ratios : c.ratios.encode.length = c.pairing.encode.length
  decode_ratios : c.ratios.decode.length = c.pairing.decode.length

namespace Category

def all (c : Category) : List Measurement := c.encode ++ c.decode

/-- What a category has to meet to be reported against a baseline. -/
structure Reportable (b : Baseline) (c : Category) : Prop where
  algorithms : (c.encode.map (·.algorithm)).Perm (c.decode.map (·.algorithm))
  label : ∀ m ∈ c.all, ∀ n ∈ c.all, m.label = n.label
  timeUnit : ∀ m ∈ c.all, m.timeUnit = "ns"
  baseline : ∀ a, b = .named a → a ∈ c.all.map (·.algorithm)

instance (b : Baseline) (c : Category) : Decidable (c.Reportable b) :=
  decidable_of_iff ((c.encode.map (·.algorithm)).Perm (c.decode.map (·.algorithm)) ∧
      (∀ m ∈ c.all, ∀ n ∈ c.all, m.label = n.label) ∧ (∀ m ∈ c.all, m.timeUnit = "ns") ∧ b.OccursIn c.all)
    ⟨fun h => ⟨h.1, h.2.1, h.2.2.1, h.2.2.2⟩, fun h => ⟨h.algorithms, h.label, h.timeUnit, h.baseline⟩⟩

structure WellFormed (c : Category) : Prop where
  category : ∀ m ∈ c.all, m.category = c.name
  nonempty : c.all ≠ []

theorem Matched.encode_ne_nil {c : Category} (h : c.Matched) (hc : c.WellFormed) : c.encode ≠ [] := by
  intro he
  exact hc.nonempty (by simp [all, he, h.decode_eq_nil he])

theorem report_congr {b : Baseline} {c d : Category} (hn : c.name = d.name)
    (he : sortByAlgorithm c.encode = sortByAlgorithm d.encode)
    (hd : sortByAlgorithm c.decode = sortByAlgorithm d.decode) : c.report b = d.report b := by
  have hp : c.pair = d.pair := by simp only [pair, hn, he, hd]
  simp only [report, hp, hn]

theorem report_eq_ok_of {b : Baseline} {c : Category} {rs : Ratios} (hm : c.Matched)
    (hu : c.terms.timeUnit = reportUnit) (hr : c.paired.ratios? b = some rs) :
    c.report b = .ok ⟨c.paired, rs⟩ := by
  have hp : c.pair = .ok c.paired := pair_eq_ok_iff.2 ⟨hm, rfl⟩
  have hu' : c.paired.timeUnit = reportUnit := hu
  simp [report, hp, hu', hr]

theorem report_cases (b : Baseline) (c : Category) :
    (∃ rs, c.Matched ∧ c.terms.timeUnit = reportUnit ∧ c.paired.ratios? b = some rs ∧
      c.report b = .ok ⟨c.paired, rs⟩) ∨
    ∃ fault, c.report b = .error (.skipped c.name fault) := by
  cases hp : c.pair with
  | error mismatch => exact .inr ⟨.mismatched mismatch, by simp [report, hp]⟩
  | ok p =>
    obtain ⟨hm, rfl⟩ := pair_eq_ok_iff.1 hp
    by_cases hu : c.paired.timeUnit = reportUnit
    · cases hr : c.paired.ratios? b with
      | none => exact .inr ⟨.unknownBaseline b.algorithm, by simp [report, hp, hu, hr]⟩
      | some rs => exact .inl ⟨rs, hm, hu, rfl, report_eq_ok_of hm hu hr⟩
    · exact .inr ⟨.unexpectedUnit c.paired.timeUnit, by simp [report, hp, hu]⟩

theorem parallel_of_report {b : Baseline} {c : Category} {r : CategoryReport} (h : c.report b = .ok r) :
    r.Parallel := by
  obtain ⟨rs, hm, -, hrs, hr⟩ | ⟨fault, hf⟩ := report_cases b c
  · obtain rfl : r = ⟨c.paired, rs⟩ := Except.ok.inj (h.symm.trans hr)
    obtain ⟨he, hd⟩ := Pairing.ratios?_eq_some_iff.1 hrs
    exact ⟨rfl, (map_algorithm_sort_eq_iff.2 hm.algorithms).symm, length_of_ratios? he,
      length_of_ratios? hd⟩
  · rw [hf] at h
    cases h

theorem Matched.exists_ratios?_iff {b : Baseline} {c : Category} (h : c.Matched) (hc : c.WellFormed) :
    (∃ rs, c.paired.ratios? b = some rs) ↔ b.OccursIn c.all := by
  have he := h.encode_ne_nil hc
  have hd : c.decode ≠ [] := by
    intro hd
    have hl := h.algorithms.length_eq
    exact he (by simpa [hd] using hl)
  have hse : sortByAlgorithm c.encode ≠ [] :=
    List.ne_nil_of_length_pos (by simpa [length_sortByAlgorithm] using List.length_pos_iff.2 he)
  have hsd : sortByAlgorithm c.decode ≠ [] :=
    List.ne_nil_of_length_pos (by simpa [length_sortByAlgorithm] using List.length_pos_iff.2 hd)
  rw [Pairing.exists_ratios?_iff]
  change (∃ rs, ratios? b (sortByAlgorithm c.encode) = some rs) ∧
    (∃ rs, ratios? b (sortByAlgorithm c.decode) = some rs) ↔ _
  rw [CodecBench.exists_ratios?_iff hse, CodecBench.exists_ratios?_iff hsd]
  have ha := fun a => h.algorithms.mem_iff (a := a)
  cases b with
  | first => simp
  | named a =>
    simp only [Baseline.occursIn_named, all, List.map_append, List.mem_append, ← ha,
      ((sortByAlgorithm_perm c.encode).map _).mem_iff, ((sortByAlgorithm_perm c.decode).map _).mem_iff,
      and_self, or_self]

theorem Matched.timeUnit_eq_iff {c : Category} (h : c.Matched) (hc : c.WellFormed) {unit : String} :
    c.terms.timeUnit = unit ↔ ∀ m ∈ c.all, m.timeUnit = unit := by
  have ht := (matched_iff.1 h).2
  constructor
  · intro hu m hm
    rw [← hu, ← ht m hm]
    rfl
  · intro hu
    obtain ⟨m, hm, hmt⟩ := exists_ofMeasurement_eq_terms (h.encode_ne_nil hc)
    rw [← hmt]
    exact hu m (by simp [all, hm])

theorem matched_iff_of_wellFormed {c : Category} (hc : c.WellFormed) :
    c.Matched ∧ (∀ m ∈ c.all, m.timeUnit = "ns") ↔
      (c.encode.map (·.algorithm)).Perm (c.decode.map (·.algorithm)) ∧
        (∀ m ∈ c.all, ∀ n ∈ c.all, m.label = n.label) ∧ ∀ m ∈ c.all, m.timeUnit = "ns" := by
  constructor
  · intro h'
    obtain ⟨h, hu⟩ := h'
    exact ⟨h.algorithms, fun m hm n hn => congrArg Terms.label (h.terms m hm n hn), hu⟩
  · intro h'
    obtain ⟨ha, hl, hu⟩ := h'
    refine ⟨⟨ha, fun m hm n hn => ?_⟩, hu⟩
    simp only [Terms.ofMeasurement, hl m hm n hn, hu m hm, hu n hn, hc.category m hm, hc.category n hn]

theorem exists_report_iff {b : Baseline} {c : Category} (hc : c.WellFormed) :
    (∃ r, c.report b = .ok r) ↔ c.Reportable b := by
  constructor
  · intro h'
    obtain ⟨r, hr⟩ := h'
    obtain ⟨rs, hm, hu, hrs, -⟩ | ⟨fault, hf⟩ := report_cases b c
    · have hu' := (hm.timeUnit_eq_iff hc).1 hu
      obtain ⟨ha, hl, -⟩ := (matched_iff_of_wellFormed hc).1 ⟨hm, hu'⟩
      exact ⟨ha, hl, hu', (hm.exists_ratios?_iff hc).1 ⟨rs, hrs⟩⟩
    · simp [hf] at hr
  · intro h
    obtain ⟨hm, hu⟩ := (matched_iff_of_wellFormed hc).2 ⟨h.algorithms, h.label, h.timeUnit⟩
    obtain ⟨rs, hrs⟩ := (hm.exists_ratios?_iff hc).2 h.baseline
    exact ⟨_, report_eq_ok_of hm ((hm.timeUnit_eq_iff hc).2 hu) hrs⟩

theorem wellFormed_select {ms : List Measurement} {name : String} (h : name ∈ names ms) :
    (select ms name).WellFormed := by
  constructor
  · intro m hm
    simp only [all, select, List.mem_append, mem_side_iff] at hm
    obtain ⟨-, hc, -⟩ | ⟨-, hc, -⟩ := hm
    · exact hc
    · exact hc
  · rw [names, List.mem_eraseDups] at h
    obtain ⟨m, hm, rfl⟩ := List.mem_map.1 h
    obtain ⟨hms, hk⟩ := mem_measured_iff.1 hm
    refine List.ne_nil_of_mem (a := m) (List.mem_append.2 ?_)
    exact hk.imp (fun hk => mem_side_iff.2 ⟨hms, rfl, hk⟩) fun hk => mem_side_iff.2 ⟨hms, rfl, hk⟩

end Category

@[simp] theorem success?_ok {ε α : Type} (a : α) : success? (.ok a : Except ε α) = some a := rfl
@[simp] theorem success?_error {ε α : Type} (e : ε) : success? (.error e : Except ε α) = none := rfl
@[simp] theorem failure?_ok {ε α : Type} (a : α) : failure? (.ok a : Except ε α) = none := rfl
@[simp] theorem failure?_error {ε α : Type} (e : ε) : failure? (.error e : Except ε α) = some e := rfl

theorem success?_eq_some_iff {ε α : Type} {e : Except ε α} {a : α} : success? e = some a ↔ e = .ok a := by
  cases e <;> simp

theorem failure?_eq_some_iff {ε α : Type} {e : Except ε α} {d : ε} :
    failure? e = some d ↔ e = .error d := by
  cases e <;> simp

theorem isSome_success?_iff {ε α : Type} {e : Except ε α} :
    (success? e).isSome ↔ ∃ a, e = .ok a := by
  cases e <;> simp

theorem mem_filterMap_success?_iff {ε α : Type} {a : α} {es : List (Except ε α)} :
    a ∈ es.filterMap success? ↔ .ok a ∈ es := by
  simp only [List.mem_filterMap, success?_eq_some_iff, exists_eq_right]

namespace Report

def primary : List Input → List Measurement
  | [] => []
  | first :: _ => Entry.measurements first.entries

def verdict (s : Settings) (inputs : List Input) (name : String) : Except Diagnostic CategoryReport :=
  (Category.select (primary inputs) name).report s.baseline

theorem parallel_of_mem {s : Settings} {inputs : List Input} {c : CategoryReport}
    (h : c ∈ (ofInputs s inputs).categories) : c.Parallel := by
  rw [ofInputs, mem_filterMap_success?_iff, verdicts, List.mem_map] at h
  obtain ⟨category, -, hc⟩ := h
  exact Category.parallel_of_report hc

def reported (r : Report) : List String := r.categories.map (·.pairing.category)

theorem verdicts_eq (s : Settings) (inputs : List Input) :
    verdicts s inputs = (Category.names (primary inputs)).map (verdict s inputs) := by
  have h : categoriesOf inputs = Category.collect (primary inputs) := by cases inputs <;> rfl
  rw [verdicts, h, Category.collect_eq, List.map_map]
  rfl

theorem category_of_verdict {s : Settings} {inputs : List Input} {name : String} {r : CategoryReport}
    (h : verdict s inputs name = .ok r) : r.pairing.category = name := by
  obtain ⟨rs, -, -, -, hr⟩ | ⟨fault, hf⟩ :=
    Category.report_cases s.baseline (Category.select (primary inputs) name)
  · have hr' : r = ⟨_, rs⟩ := Except.ok.inj (h.symm.trans hr)
    rw [hr']
    rfl
  · rw [verdict, hf] at h
    cases h

theorem exists_paired_of_mem {s : Settings} {inputs : List Input} {c : CategoryReport}
    (h : c ∈ (ofInputs s inputs).categories) : ∃ name ∈ Category.names (primary inputs), ∃ rs,
      (Category.select (primary inputs) name).Matched ∧
      (Category.select (primary inputs) name).paired.ratios? s.baseline = some rs ∧
      c = ⟨(Category.select (primary inputs) name).paired, rs⟩ := by
  rw [ofInputs, mem_filterMap_success?_iff, verdicts_eq, List.mem_map] at h
  obtain ⟨name, hname, hc⟩ := h
  obtain ⟨rs, hm, -, hrs, hr⟩ | ⟨fault, hf⟩ :=
    Category.report_cases s.baseline (Category.select (primary inputs) name)
  · exact ⟨name, hname, rs, hm, hrs, Except.ok.inj (hc.symm.trans hr)⟩
  · rw [verdict, hf] at hc
    cases hc

theorem reported_ofInputs (s : Settings) (inputs : List Input) :
    (ofInputs s inputs).reported =
      (Category.names (primary inputs)).filter fun name => (success? (verdict s inputs name)).isSome := by
  rw [reported, ofInputs, verdicts_eq, List.filterMap_map]
  induction Category.names (primary inputs) with
  | nil => rfl
  | cons name names ih =>
    cases h : verdict s inputs name with
    | error d => simpa [List.filterMap_cons, h] using ih
    | ok r => simpa [List.filterMap_cons, h, category_of_verdict h] using ih

theorem mem_reported_iff {s : Settings} {inputs : List Input} {name : String} :
    name ∈ (ofInputs s inputs).reported ↔ name ∈ Category.names (primary inputs) ∧
      (Category.select (primary inputs) name).Reportable s.baseline := by
  rw [reported_ofInputs, List.mem_filter, isSome_success?_iff]
  refine and_congr_right fun h => ?_
  exact Category.exists_report_iff (Category.wellFormed_select h)

/-- Of the categories of the first input exactly those are reported that can be, each once and in the
order of their first measurements. -/
theorem reported_exactly (s : Settings) (inputs : List Input) :
    (∀ c, c ∈ (ofInputs s inputs).reported ↔
      c ∈ (Category.measured (primary inputs)).map (·.category) ∧
        (Category.select (primary inputs) c).Reportable s.baseline) ∧
    (ofInputs s inputs).reported.Nodup ∧
    (ofInputs s inputs).reported.Pairwise fun c d =>
      ((Category.measured (primary inputs)).map (·.category)).idxOf c <
        ((Category.measured (primary inputs)).map (·.category)).idxOf d := by
  have hs : (ofInputs s inputs).reported.Sublist (Category.names (primary inputs)) := by
    rw [reported_ofInputs]
    exact List.filter_sublist
  refine ⟨fun c => ?_, ?_, ?_⟩
  · rw [mem_reported_iff, Category.names, List.mem_eraseDups]
  · exact (nodup_eraseDups _).sublist hs
  · exact (pairwise_idxOf_eraseDups _).sublist hs

end Report
end CodecBench
