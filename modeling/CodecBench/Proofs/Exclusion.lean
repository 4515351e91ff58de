import CodecBench.Proofs.Diagnosis
import CodecBench.Proofs.Diagnostics
import CodecBench.Proofs.Overall
/-!
Faults that are provided for and cannot occur. The measurements of a category were collected by its name, so
they never depart from each other by their categories; the first algorithm of a category is always there to
relate to; and grids are only compared with a baseline that both have. The lists of a reported category are of
one length, so that nothing is lost where they are put side by side (`Report.excluded_faults`).
-/

namespace CodecBench

theorem exists_ratios?_first (ms : List Measurement) : ∃ rs, ratios? .first ms = some rs := by
  by_cases h : ms = []
  · exact ⟨[], by simp [ratios?, h]⟩
  · exact (exists_ratios?_iff h).2 (Baseline.occursIn_first ms)

namespace Category

/-- What one name was collected under does not depart by its category. -/
theorem WellFormed.pair_ne_category {c : Category} (hc : c.WellFormed) (a x y : String) :
    c.pair ≠ .error (.category a x y) := by
  intro hpair
  cases pair_eq_error_iff.1 hpair with
  | @position es ds first e d i _ _ hes hds hfirst he hd _ hclash =>
    have hname : ∀ m, m ∈ es ∨ m ∈ ds → m.category = c.name := fun m hm =>
      hc.category m (List.mem_append.2 (hm.imp hes.perm.mem_iff.1 hds.perm.mem_iff.1))
    have hf := hname first (.inl (List.mem_of_getElem? hfirst))
    cases hclash with
    | encode _ hdeparts =>
      cases hdeparts with
      | category _ _ hne => exact hne ((hname e (.inl (List.mem_of_getElem? he))).trans hf.symm)
    | decode _ _ hdeparts =>
      cases hdeparts with
      | category _ _ hne => exact hne ((hname d (.inr (List.mem_of_getElem? hd))).trans hf.symm)

theorem fault_cases {b : Baseline} {c : Category} {d : Diagnostic} (h : c.report b = .error d) :
    (∃ mismatch, c.pair = .error mismatch ∧ d = .skipped c.name (.mismatched mismatch)) ∨
    (∃ p, c.pair = .ok p ∧ p.timeUnit ≠ reportUnit ∧ d = .skipped c.name (.unexpectedUnit p.timeUnit)) ∨
    ∃ p, c.pair = .ok p ∧ p.ratios? b = none ∧ d = .skipped c.name (.unknownBaseline b.algorithm) := by
  rw [report] at h
  cases hp : c.pair with
  | error mismatch =>
    rw [hp] at h
    exact .inl ⟨mismatch, rfl, (Except.error.inj h).symm⟩
  | ok p =>
    simp only [hp] at h
    by_cases hu : p.timeUnit = reportUnit
    · rw [if_neg (not_not.2 hu)] at h
      cases hr : p.ratios? b with
      | none =>
        rw [hr] at h
        exact .inr (.inr ⟨p, rfl, hr, (Except.error.inj h).symm⟩)
      | some rs => simp [hr] at h
    · rw [if_pos hu] at h
      exact .inr (.inl ⟨p, rfl, hu, (Except.error.inj h).symm⟩)

end Category

theorem Grids.missingBaseline_notMem {g : Grids} {b : String}
    {outcomes : List (Except ComparisonFault Comparison)} (h : g.compare b = .ok outcomes) (kind : Kind)
    (b' : String) : .error (.missingBaseline kind b') ∉ outcomes := by
  rw [compare] at h
  by_cases he : g.encode.hasVariant b
  · by_cases hd : g.decode.hasVariant b
    · rw [if_pos he, if_pos hd] at h
      cases h
      rw [List.mem_pair, not_or]
      exact ⟨(Grid.compare_ne_missingBaseline (Grid.hasVariant_iff.1 he)).symm,
        (Grid.compare_ne_missingBaseline (Grid.hasVariant_iff.1 hd)).symm⟩
    · simp [he, hd] at h
  · simp [he] at h

namespace Report

theorem exists_position {s : Settings} {inputs : List Input} {c : CategoryReport}
    (h : c ∈ (ofInputs s inputs).categories) :
    (∃ p, s.baseline.position? c.pairing.encode = some p ∧ p < c.pairing.encode.length) ∧
      ∃ p, s.baseline.position? c.pairing.decode = some p ∧ p < c.pairing.decode.length := by
  obtain ⟨name, hname, rs, hm, hrs, rfl⟩ := exists_paired_of_mem h
  obtain ⟨he, hd⟩ := Pairing.ratios?_eq_some_iff.1 hrs
  obtain ⟨p, -, hp, -, -⟩ := (CodecBench.ratios?_eq_some_iff (sortedSide_ne_nil hname hm rfl)).1 he
  obtain ⟨q, -, hq, -, -⟩ := (CodecBench.ratios?_eq_some_iff (sortedSide_ne_nil hname hm rfl)).1 hd
  exact ⟨⟨p, hp, Baseline.lt_length_of_position? hp⟩, q, hq, Baseline.lt_length_of_position? hq⟩

theorem mismatched_category_notMem (s : Settings) (inputs : List Input) (name a x y : String) :
    .skipped name (.mismatched (.category a x y)) ∉ (ofInputs s inputs).diagnostics := by
  intro h
  obtain ⟨hname, hv⟩ := mem_diagnostics_skipped_iff.1 h
  obtain ⟨mismatch, hp, hd⟩ | ⟨p, -, -, hd⟩ | ⟨p, -, -, hd⟩ := Category.fault_cases hv
  · cases hd
    exact (Category.wellFormed_select hname).pair_ne_category a x y hp
  · cases hd
  · cases hd

theorem unknownBaseline_notMem {s : Settings} (hs : s.baseline = .first) (inputs : List Input)
    (name a : String) : .skipped name (.unknownBaseline a) ∉ (ofInputs s inputs).diagnostics := by
  intro h
  obtain ⟨-, hv⟩ := mem_diagnostics_skipped_iff.1 h
  obtain ⟨mismatch, -, hd⟩ | ⟨p, -, -, hd⟩ | ⟨p, -, hr, -⟩ := Category.fault_cases hv
  · cases hd
  · cases hd
  · obtain ⟨rs, hrs⟩ := Pairing.exists_ratios?_iff.2
      ⟨exists_ratios?_first p.encode, exists_ratios?_first p.decode⟩
    rw [hs, hrs] at hr
    cases hr

theorem lengths_of_mem {s : Settings} {inputs : List Input} {c : CategoryReport}
    (h : c ∈ (ofInputs s inputs).categories) :
    c.pairing.encode.length = c.pairing.size ∧ c.pairing.decode.length = c.pairing.size ∧
      c.ratios.encode.length = c.pairing.size ∧ c.ratios.decode.length = c.pairing.size := by
  have hc := parallel_of_mem h
  have he : c.pairing.encode.length = c.pairing.size := by
    simpa [Pairing.size] using congrArg List.length hc.encode_algorithms
  have hd : c.pairing.decode.length = c.pairing.size := by
    simpa [Pairing.size] using congrArg List.length hc.decode_algorithms
  exact ⟨he, hd, hc.encode_ratios.trans he, hc.decode_ratios.trans hd⟩

/-- No category is skipped for a measurement of another one, none for want of a first algorithm, and nothing
that is compared turns out to lack its baseline. What is reported of a category is not empty, its baseline stands
in both directions, and putting its lists side by side loses nothing. -/
theorem excluded_faults (s : Settings) (inputs : List Input) :
    (∀ name a x y,
      .skipped name (.mismatched (.category a x y)) ∉ (ofInputs s inputs).diagnostics) ∧
    (s.baseline = .first →
      ∀ name a, .skipped name (.unknownBaseline a) ∉ (ofInputs s inputs).diagnostics) ∧
    (∀ (g : Grids) b outcomes, g.compare b = .ok outcomes →
      ∀ kind b', .error (.missingBaseline kind b') ∉ outcomes) ∧
    ∀ c ∈ (ofInputs s inputs).categories, c.pairing.isEmpty = false ∧
      (∃ p, s.baseline.position? c.pairing.encode = some p ∧ p < c.pairing.encode.length) ∧
      (∃ p, s.baseline.position? c.pairing.decode = some p ∧ p < c.pairing.decode.length) ∧
      (c.pairing.encode.length = c.pairing.size ∧ c.pairing.decode.length = c.pairing.size ∧
        c.ratios.encode.length = c.pairing.size ∧ c.ratios.decode.length = c.pairing.size) ∧
      (c.pairing.encode.zip c.ratios.encode).unzip = (c.pairing.encode, c.ratios.encode) ∧
      (c.pairing.decode.zip c.ratios.decode).unzip = (c.pairing.decode, c.ratios.decode) ∧
      c.pairing.pairs.unzip = (c.pairing.encode, c.pairing.decode) := by
  refine ⟨mismatched_category_notMem s inputs, fun hs => unknownBaseline_notMem hs inputs,
    fun g b outcomes h => Grids.missingBaseline_notMem h, fun c hc => ?_⟩
  obtain ⟨he, hd, hre, hrd⟩ := lengths_of_mem hc
  obtain ⟨⟨p, hp, hlt⟩, hq⟩ := exists_position hc
  have hne : c.pairing.isEmpty = false := by
    have hpos : 0 < c.pairing.size := Nat.lt_of_le_of_lt p.zero_le (he ▸ hlt)
    simpa [Pairing.isEmpty] using List.length_pos_iff.1 hpos
  exact ⟨hne, ⟨p, hp, hlt⟩, hq, ⟨he, hd, hre, hrd⟩, List.unzip_zip (he.trans hre.symm),
    List.unzip_zip (hd.trans hrd.symm), List.unzip_zip (he.trans hd.symm)⟩

/-- A category of two algorithms besides one that cannot be paired. -/
theorem excluded_faults_two_categories :
    let entry (name : String) : Entry := ⟨name, some 4.0, "ns", none, none⟩
    let inputs : List Input := [⟨"run", [entry "a/Encode_Y", entry "a/Encode_X", entry "a/Decode_X",
      entry "b/Encode_X", entry "a/Decode_Y"]⟩]
    let s : Settings := ⟨.first, "X", .algorithms, false⟩
    (∀ name a, .skipped name (.unknownBaseline a) ∉ (ofInputs s inputs).diagnostics) ∧
      (∃ c ∈ (ofInputs s inputs).categories, c.pairing.category = "a" ∧ c.pairing.isEmpty = false ∧
        c.pairing.pairs.unzip = (c.pairing.encode, c.pairing.decode)) ∧
      ∃ outcomes, (Grids.ofRuns s.source (inputs.map Input.run)).compare "X" = .ok outcomes ∧
        ∀ kind b, .error (.missingBaseline kind b) ∉ outcomes := by
  intro entry inputs s
  obtain ⟨-, hfirst, hgrids, hcategories⟩ := excluded_faults s inputs
  have ha : "a" ∈ (ofInputs s inputs).reported := mem_reported_iff.2 (by decide +kernel)
  obtain ⟨c, hc, hcat⟩ := List.mem_map.1 ha
  obtain ⟨hne, -, -, -, -, -, hpairs⟩ := hcategories c hc
  have he : (Grids.ofRuns s.source (inputs.map Input.run)).encode.hasVariant "X" := by decide +kernel
  have hd : (Grids.ofRuns s.source (inputs.map Input.run)).decode.hasVariant "X" := by decide +kernel
  have ho : ∃ outcomes, (Grids.ofRuns s.source (inputs.map Input.run)).compare "X" = .ok outcomes :=
    ⟨_, by rw [Grids.compare, if_pos he, if_pos hd]⟩
  obtain ⟨outcomes, ho⟩ := ho
  exact ⟨hfirst rfl, ⟨c, hc, hcat, hne, hpairs⟩, outcomes, ho, hgrids _ _ outcomes ho⟩

end Report
end CodecBench
