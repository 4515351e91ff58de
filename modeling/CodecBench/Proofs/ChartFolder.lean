import CodecBench.ChartFolder
import CodecBench.Proofs.Comparison
/-!
Chart folders. Charts that are emitted one after the other have a file each until one comes whose path is
taken; that one is refused and nothing after it is written (`ChartFolder.emitAll_cases`). Of the charts of a
report only those of categories can fall together, when their names differ in signs alone that a file name
does not keep (`ChartFolder.refused_exactly`).
-/

namespace CodecBench

theorem Path.join_right_inj {folder a b : String} :
    Path.join folder a = Path.join folder b ↔ a = b := by
  unfold join
  split <;> simp

namespace ChartFolder

theorem emit_cases (f : ChartFolder) (c : Chart) :
    (f.path c ∉ f.written.keys ∧
      f.emit c = .ok { f with written := f.written.insert (f.path c) c }) ∨
    ∃ previous, (f.path c, previous) ∈ f.written.entries ∧
      f.emit c = .error ⟨previous.id, c.id, f.path c⟩ := by
  unfold emit
  cases h : f.written.get? (f.path c) with
  | some previous => exact .inr ⟨previous, Roster.mem_entries_iff.2 h, rfl⟩
  | none =>
    refine .inl ⟨fun hk => ?_, rfl⟩
    obtain ⟨v, hv⟩ := Roster.mem_keys_iff.1 hk
    rw [h] at hv
    cases hv

def placed (f : ChartFolder) (cs : List Chart) : List (String × Chart) := cs.map fun c => (f.path c, c)

theorem emitAll_cases (f : ChartFolder) (cs : List Chart) :
    (∃ g, f.emitAll cs = (g, none) ∧ g.written.entries = f.written.entries ++ f.placed cs) ∨
    ∃ done c after g previous, cs = done ++ c :: after ∧
      (f.path c, previous) ∈ f.written.entries ++ f.placed done ∧
      f.emitAll cs = (g, some ⟨previous.id, c.id, f.path c⟩) ∧
      g.written.entries = f.written.entries ++ f.placed done := by
  induction cs generalizing f with
  | nil => exact .inl ⟨f, rfl, by simp [placed]⟩
  | cons c rest ih =>
    rw [emitAll]
    obtain ⟨hn, he⟩ | ⟨previous, hp, he⟩ := f.emit_cases c
    · rw [he]
      have hw : (f.written.insert (f.path c) c).entries = f.written.entries ++ [(f.path c, c)] :=
        Roster.entries_insert_of_notMem hn c
      obtain ⟨g, hg, hgw⟩ | ⟨done, d, after, g, previous, rfl, hp, hg, hgw⟩ :=
        ih { f with written := f.written.insert (f.path c) c }
      · refine .inl ⟨g, hg, ?_⟩
        rw [hgw, hw, List.append_assoc]
        rfl
      · rw [hw, List.append_assoc] at hp hgw
        exact .inr ⟨c :: done, d, after, g, previous, rfl, hp, hg, hgw⟩
    · rw [he]
      exact .inr ⟨[], c, rest, f, previous, rfl, by simpa [placed] using hp, rfl, by simp [placed]⟩

theorem emitAll_prefix {f g : ChartFolder} {cs : List Chart} {refusal : Option Refusal}
    (h : f.emitAll cs = (g, refusal)) :
    ∃ done rest, cs = done ++ rest ∧ (refusal = none ↔ rest = []) ∧ f.emitAll done = (g, none) := by
  induction cs generalizing f with
  | nil =>
    obtain ⟨rfl, rfl⟩ := Prod.mk.inj h
    exact ⟨[], [], rfl, by simp, rfl⟩
  | cons c cs ih =>
    rw [emitAll] at h
    cases he : f.emit c with
    | error r =>
      rw [he] at h
      obtain ⟨rfl, rfl⟩ := Prod.mk.inj h
      exact ⟨[], c :: cs, rfl, by simp, rfl⟩
    | ok f' =>
      rw [he] at h
      obtain ⟨done, rest, rfl, hrest, hdone⟩ := ih h
      exact ⟨c :: done, rest, rfl, hrest, by simpa only [emitAll, he] using hdone⟩

def file (folder : String) (c : Chart) : String × String := (Path.join folder (fileName c), content c)

theorem files_of_entries {f : ChartFolder} {folder : String} {cs : List Chart}
    (h : f.written.entries = (empty folder).placed cs) :
    f.files = cs.map (file folder) ∧ (cs.map fileName).Nodup := by
  constructor
  · rw [files, h, placed, List.map_map]
    rfl
  · have hn := f.written.nodup_keys
    rw [h, placed, List.map_map] at hn
    have hp : (Prod.fst ∘ fun c => ((empty folder).path c, c)) = Path.join folder ∘ fileName := rfl
    rw [hp, ← List.map_map] at hn
    exact hn.of_map

theorem nodup_files (f : ChartFolder) : (f.files.map Prod.fst).Nodup := by
  have h := f.written.nodup_keys
  rw [files, List.map_map]
  exact h

theorem entries_of_emitAll {folder : String} {cs : List Chart} {f : ChartFolder}
    (h : (empty folder).emitAll cs = (f, none)) : f.written.entries = (empty folder).placed cs := by
  obtain ⟨g, hg, hw⟩ | ⟨done, c, after, g, previous, -, -, hg, -⟩ := (empty folder).emitAll_cases cs
  · obtain ⟨rfl, -⟩ := Prod.mk.inj (hg.symm.trans h)
    exact hw
  · rw [hg] at h
    cases h

theorem emitAll_empty_of_none {folder : String} {cs : List Chart} {f : ChartFolder}
    (h : (empty folder).emitAll cs = (f, none)) :
    f.files = cs.map (file folder) ∧ (cs.map fileName).Nodup := files_of_entries (entries_of_emitAll h)

theorem emitAll_empty_of_some {folder : String} {cs : List Chart} {f : ChartFolder} {refusal : Refusal}
    (h : (empty folder).emitAll cs = (f, some refusal)) :
    ∃ done c after, cs = done ++ c :: after ∧ (done.map fileName).Nodup ∧
      (∃ d ∈ done, fileName d = fileName c ∧
        refusal = ⟨d.id, c.id, Path.join folder (fileName c)⟩) ∧
      f.files = done.map (file folder) := by
  obtain ⟨g, hg, -⟩ | ⟨done, c, after, g, previous, hcs, hp, hg, hw⟩ := (empty folder).emitAll_cases cs
  · rw [hg] at h
    cases h
  · obtain ⟨rfl, hr⟩ := Prod.mk.inj (hg.symm.trans h)
    obtain ⟨hf, hn⟩ := files_of_entries hw
    obtain ⟨d, hd, hdp⟩ := List.mem_map.1 hp
    obtain ⟨hpath, rfl⟩ := Prod.mk.inj hdp
    exact ⟨done, c, after, hcs, hn, ⟨d, hd, Path.join_right_inj.1 hpath, (Option.some.inj hr).symm⟩, hf⟩

theorem exists_emitAll_empty_iff {folder : String} {cs : List Chart} :
    (∃ f, (empty folder).emitAll cs = (f, none)) ↔ (cs.map fileName).Nodup := by
  constructor
  · intro h
    obtain ⟨f, hf⟩ := h
    exact (emitAll_empty_of_none hf).2
  · intro h
    cases he : (empty folder).emitAll cs with
    | mk f refusal =>
      cases refusal with
      | none => exact ⟨f, rfl⟩
      | some refusal =>
        obtain ⟨done, c, after, rfl, -, ⟨d, hd, hn, -⟩, -⟩ := emitAll_empty_of_some he
        rw [List.map_append, List.map_cons, List.nodup_middle, List.nodup_cons, List.mem_append,
          not_or, ← hn] at h
        exact absurd (List.mem_map_of_mem hd) h.1.1

theorem toList_fileStem (id : String) :
    (fileStem id).toList = id.toList.map fun c =>
      if isAlphanumeric c || c == '-' || c == '_' || c == '.' then c else '_' := by
  simp [fileStem]

theorem fileStem_append (a b : String) : fileStem (a ++ b) = fileStem a ++ fileStem b := by
  rw [← String.toList_inj]
  simp [toList_fileStem, String.toList_append]

theorem fileName_standings (ss : List Standing) : fileName (.ofStandings ss) = "overall.json" := by
  have h : fileStem "overall" = "overall" := by decide
  simp only [Chart.ofStandings, fileName, h]
  rfl

theorem fileName_comparison (c : Comparison) :
    fileName (.ofComparison c) = "compare_" ++ fileStem c.kind.tag ++ ".json" := by
  have h : fileStem "compare_" = "compare_" := by decide
  simp only [Chart.ofComparison, fileName, fileStem_append, h]

theorem fileName_category_ne_standings (b : Bars) (ss : List Standing) :
    fileName (.category b) ≠ fileName (.ofStandings ss) := by
  intro h
  rw [fileName_standings] at h
  simpa [fileName] using congrArg (fun s => s.toList.head?) h

theorem fileName_category_ne_comparison (b : Bars) (c : Comparison) :
    fileName (.category b) ≠ fileName (.ofComparison c) := by
  intro h
  rw [fileName_comparison] at h
  simpa [fileName] using congrArg (fun s => s.toList.take 2) h

end ChartFolder

def CategoryReport.chart (c : CategoryReport) : Chart := .ofPairing c.pairing c.ratios

def CategoryReport.fileStem (c : CategoryReport) : String := ChartFolder.fileStem c.pairing.category

theorem CategoryReport.fileName_chart (c : CategoryReport) :
    ChartFolder.fileName c.chart = "category_" ++ c.fileStem ++ ".json" := rfl

theorem CategoryReport.fileName_chart_inj {c d : CategoryReport} :
    ChartFolder.fileName c.chart = ChartFolder.fileName d.chart ↔ c.fileStem = d.fileStem := by
  simp [fileName_chart]

theorem CategoryReport.nodup_fileName_iff {cs : List CategoryReport} :
    ((cs.map (·.chart)).map ChartFolder.fileName).Nodup ↔ (cs.map (·.fileStem)).Nodup := by
  simp only [List.map_map, List.Nodup, List.pairwise_map, Function.comp_apply, ne_eq,
    fileName_chart_inj]

namespace Report
open ChartFolder

theorem kinds_sublist (s : Settings) (inputs : List Input) :
    ((ofInputs s inputs).comparisons.map (·.kind)).Sublist [.encode, .decode] := by
  have hk : ∀ kind, (((success? ((grid s inputs kind).compare kind s.baselineVariant)).toList).map
      (·.kind)).Sublist [kind] := by
    intro kind
    cases h : (grid s inputs kind).compare kind s.baselineVariant with
    | error fault => simp
    | ok c => simp [(Grid.compare_eq_ok_iff.1 h).2.1]
  have hf : ∀ x y : Except ComparisonFault Comparison,
      [x, y].filterMap success? = (success? x).toList ++ (success? y).toList := by
    intro x y
    cases x <;> cases y <;> rfl
  rw [ofInputs]
  obtain ⟨-, -, ho⟩ | ⟨kind, -, -, ho⟩ := outcomes_cases s inputs
  · rw [ho, hf, List.map_append]
    exact (hk .encode).append (hk .decode)
  · rw [ho]
    simp

def otherCharts (r : Report) : List Chart := .ofStandings r.overall :: r.comparisons.map .ofComparison

def categoryCharts (r : Report) : List Chart := r.categories.map (·.chart)

theorem charts_eq (r : Report) : r.charts = r.categoryCharts ++ r.otherCharts := rfl

theorem nodup_otherCharts (s : Settings) (inputs : List Input) :
    ((ofInputs s inputs).otherCharts.map fileName).Nodup := by
  have hs := ((kinds_sublist s inputs).map fun kind => "compare_" ++ fileStem kind.tag ++ ".json").cons_cons
    "overall.json"
  have hn : ("overall.json" ::
      [Kind.encode, .decode].map fun kind => "compare_" ++ fileStem kind.tag ++ ".json").Nodup := by
    decide
  have he : (ofInputs s inputs).otherCharts.map fileName = "overall.json" ::
      ((ofInputs s inputs).comparisons.map (·.kind)).map fun kind =>
        "compare_" ++ fileStem kind.tag ++ ".json" := by
    simp [otherCharts, fileName_standings, fileName_comparison]
  rw [he]
  exact hn.sublist hs

theorem disjoint_otherCharts (r : Report) :
    (r.categoryCharts.map fileName).Disjoint (r.otherCharts.map fileName) := by
  intro x hc ho
  simp only [categoryCharts, otherCharts, List.map_map, List.map_cons, List.mem_cons, List.mem_map] at hc ho
  obtain ⟨c, -, rfl⟩ := hc
  obtain ho | ⟨d, -, hd⟩ := ho
  · exact fileName_category_ne_standings _ _ ho
  · exact fileName_category_ne_comparison _ _ hd.symm

theorem nodup_fileName_charts_iff (s : Settings) (inputs : List Input) :
    ((ofInputs s inputs).charts.map fileName).Nodup ↔
      ((ofInputs s inputs).categories.map (·.fileStem)).Nodup := by
  rw [charts_eq, List.map_append, ← CategoryReport.nodup_fileName_iff]
  constructor
  · intro h
    exact h.of_append_left
  · intro h
    exact h.append (nodup_otherCharts s inputs) (disjoint_otherCharts _)

theorem exists_category_of_taken {s : Settings} {inputs : List Input} {done after : List Chart}
    {previous c : Chart} (h : (ofInputs s inputs).charts = done ++ c :: after) (hp : previous ∈ done)
    (hn : fileName previous = fileName c) :
    ∃ before d rest, (ofInputs s inputs).categories = before ++ d :: rest ∧
      done = before.map (·.chart) ∧ c = d.chart := by
  have hd := disjoint_otherCharts (ofInputs s inputs)
  have hp' : fileName c ∈ done.map fileName := hn ▸ List.mem_map_of_mem hp
  rw [charts_eq, List.append_eq_append_iff] at h
  obtain ⟨as, rfl, ho⟩ | ⟨bs, hc, ho⟩ := h
  · -- The charts that are not of categories have names of their own, unlike those of categories.
    have hno := nodup_otherCharts s inputs
    rw [ho] at hd hno
    rw [List.map_append, List.mem_append] at hp'
    obtain hpc | hpa := hp'
    · exact absurd (List.mem_map_of_mem (by simp)) (hd hpc)
    · rw [List.map_append, List.map_cons, List.nodup_middle, List.nodup_cons] at hno
      exact absurd (List.mem_append_left _ hpa) hno.1
  · cases bs with
    | nil =>
      rw [hc, List.append_nil] at hd
      have hco : c ∈ (ofInputs s inputs).otherCharts := by
        rw [← List.nil_append (ofInputs s inputs).otherCharts, ← ho]
        simp
      exact absurd (List.mem_map_of_mem hco) (hd hp')
    | cons b bs =>
      obtain ⟨rfl, -⟩ := List.cons.inj ho
      obtain ⟨before, rest, hcs, hbefore, hrest⟩ := List.map_eq_append_iff.1 hc
      obtain ⟨d, rest, rfl, hd, -⟩ := List.map_eq_cons_iff.1 hrest
      exact ⟨before, d, rest, hcs, hbefore.symm, hd.symm⟩

/-- The refused chart is of the first category that has the file name of an earlier one. -/
theorem refused_exactly {s : Settings} {inputs : List Input} {folder : String} {f : ChartFolder}
    {refusal : Refusal} (h : (empty folder).emitAll (ofInputs s inputs).charts = (f, some refusal)) :
    ∃ before c after, (ofInputs s inputs).categories = before ++ c :: after ∧
      (before.map (·.fileStem)).Nodup ∧
      (∃ d ∈ before, d.fileStem = c.fileStem ∧ refusal = ⟨d.pairing.category, c.pairing.category,
        Path.join folder ("category_" ++ c.fileStem ++ ".json")⟩) ∧
      f.files = before.map fun d => file folder d.chart := by
  obtain ⟨done, x, rest, hcs, hn, ⟨y, hy, hxy, hr⟩, hf⟩ := emitAll_empty_of_some h
  obtain ⟨before, c, after, hcats, rfl, rfl⟩ := exists_category_of_taken hcs hy hxy
  obtain ⟨d, hd, rfl⟩ := List.mem_map.1 hy
  refine ⟨before, c, after, hcats, CategoryReport.nodup_fileName_iff.1 hn,
    ⟨d, hd, CategoryReport.fileName_chart_inj.1 hxy, hr⟩, ?_⟩
  rw [hf, List.map_map]
  rfl

theorem nodup_fileStem_iff (s : Settings) (inputs : List Input) :
    ((ofInputs s inputs).categories.map (·.fileStem)).Nodup ↔
      ∀ a ∈ (ofInputs s inputs).reported, ∀ b ∈ (ofInputs s inputs).reported,
        ChartFolder.fileStem a = ChartFolder.fileStem b → a = b := by
  have hr : (ofInputs s inputs).categories.map (·.fileStem) =
      (ofInputs s inputs).reported.map ChartFolder.fileStem := by
    rw [reported, List.map_map]
    rfl
  have hn : (ofInputs s inputs).reported.Nodup := by
    rw [reported_ofInputs]
    exact (nodup_eraseDups _).sublist List.filter_sublist
  rw [hr]
  constructor
  · intro h a ha b hb hab
    exact List.inj_on_of_nodup_map h ha hb hab
  · intro h
    exact hn.map_on h

end Report
end CodecBench
