import CodecBench.Proofs.ChartStore
/-!
Charts of a report written to a disk. Files come to be in their folder alone (`ChartPlan.lookup_writeAll`), all of them
if it can be written to, or those before the first that is refused (`ChartPlan.holds_execute`). So what the folder has
on record is what is on the disk, and each file holds its chart (`Report.charts_emitted`).
-/

namespace CodecBench

namespace ChartPlan
variable {d d' : Disk} {folder : String} {place : Place} {files : List (String × String)}

theorem lookup_writeAll {complete : Bool} (h : writeAll d folder place files = (d', complete)) (q : Place) :
    d'.files.lookup q = d.files.lookup q ∨
      ∃ f ∈ files, q = place.inner f.1 ∧ d'.files.lookup q = some f.2.toUTF8.toList := by
  induction files generalizing d with
  | nil =>
    cases h
    exact .inl rfl
  | cons f rest ih =>
    obtain ⟨name, content⟩ := f
    rw [writeAll] at h
    split at h
    · cases hw : d.write (place.inner name) content.toUTF8.toList with
      | none =>
        rw [hw] at h
        cases h
        exact .inl rfl
      | some d₁ =>
        rw [hw] at h
        have hq := Disk.lookup_write hw q
        obtain hl | ⟨f, hf, hqf, hl⟩ := ih h
        · by_cases hqn : q = place.inner name
          · exact .inr ⟨(name, content), List.mem_cons_self, hqn, by rw [hl, hq, if_pos hqn]⟩
          · exact .inl (by rw [hl, hq, if_neg hqn])
        · exact .inr ⟨f, List.mem_cons_of_mem _ hf, hqf, hl⟩
    · cases h
      exact .inl rfl

theorem exists_writeAll (h : ∀ f ∈ files, d.Takes folder place f.1) :
    ∃ d', writeAll d folder place files = (d', true) := by
  induction files generalizing d with
  | nil => exact ⟨d, rfl⟩
  | cons f rest ih =>
    obtain ⟨hu, hfree, hfits⟩ := h f List.mem_cons_self
    obtain ⟨d₁, hd₁⟩ := Disk.exists_write hfree hfits f.2.toUTF8.toList
    have hrest : ∀ f ∈ rest, d₁.Takes folder place f.1 := by
      intro g hg
      obtain ⟨hu, hfree, hfits⟩ := h g (List.mem_cons_of_mem _ hg)
      exact ⟨hu, by rwa [Disk.isFolder, Disk.folders_of_write hd₁], hfits⟩
    obtain ⟨d₂, hd₂⟩ := ih hrest
    exact ⟨d₂, by rw [writeAll, if_pos hu, hd₁]; exact hd₂⟩

theorem mem_files_ofReport {r : Report} {f : String × String} (h : f ∈ (ofReport folder r).files) :
    ∃ x ∈ r.charts, f = (ChartFolder.fileName x, ChartFolder.content x) := by
  rw [ofReport] at h
  obtain ⟨x, hx, rfl⟩ := List.mem_map.1 h
  obtain ⟨e, he, rfl⟩ := List.mem_map.1 hx
  refine ⟨e.2, ?_, rfl⟩
  obtain ⟨g, hg, hw⟩ | ⟨done, c, after, g, previous, hcs, -, hg, hw⟩ :=
    (ChartFolder.empty folder).emitAll_cases r.charts
  · rw [hg, hw] at he
    obtain ⟨c, hc, rfl⟩ := List.mem_map.1 he
    exact hc
  · rw [hg, hw] at he
    obtain ⟨c, hc, rfl⟩ := List.mem_map.1 he
    exact hcs ▸ List.mem_append_left _ hc

theorem refusal_ofReport (folder : String) (s : Settings) (inputs : List Input) :
    (ofReport folder (.ofInputs s inputs)).refusal = none ↔
      ∀ a ∈ (Report.ofInputs s inputs).reported, ∀ b ∈ (Report.ofInputs s inputs).reported,
        ChartFolder.fileStem a = ChartFolder.fileStem b → a = b := by
  have hemit : (∃ f, (ChartFolder.empty folder).emitAll (Report.ofInputs s inputs).charts = (f, none)) ↔
      ((Report.ofInputs s inputs).charts.map ChartFolder.fileName).Nodup := ChartFolder.exists_emitAll_empty_iff
  rw [← Report.nodup_fileStem_iff, ← Report.nodup_fileName_charts_iff, ← hemit]
  constructor
  · intro h
    exact ⟨_, Prod.ext rfl h⟩
  · intro h
    obtain ⟨f, hf⟩ := h
    simp [ofReport, hf]

theorem lookup_execute (p : ChartPlan) (d : Disk) (q : Place) :
    (p.execute d).1.files.lookup q = d.files.lookup q ∨
      ∃ made place, d.makeFolder p.folder = some (made, place) ∧
        ∃ f ∈ p.files, q = place.inner f.1 ∧ (p.execute d).1.files.lookup q = some f.2.toUTF8.toList := by
  rw [execute]
  cases hm : d.makeFolder p.folder with
  | none => exact .inl rfl
  | some made =>
    obtain ⟨made, place⟩ := made
    rw [← Disk.files_of_makeFolder hm]
    obtain hl | hl := lookup_writeAll (Prod.eta (writeAll made p.folder place p.files)).symm q
    · exact .inl hl
    · exact .inr ⟨made, place, rfl, hl⟩

theorem execute_ok_iff {p : ChartPlan} {d made : Disk} {place : Place}
    (hm : d.makeFolder p.folder = some (made, place)) (ht : ∀ f ∈ p.files, made.Takes p.folder place f.1) :
    (∃ event, (p.execute d).2 = .ok event) ↔ p.refusal = none := by
  obtain ⟨d', hd'⟩ := exists_writeAll ht
  rw [execute, hm]
  simp only [hd', Bool.true_and]
  cases p.refusal <;> simp

open ChartFolder in
/-- A plan that is carried out leaves the files that its folder has on record. -/
theorem holds_execute {r : Report} {f : ChartFolder} {refusal : Option Refusal} {former made : Disk}
    (he : (empty folder).emitAll r.charts = (f, refusal)) (hm : former.makeFolder folder = some (made, place))
    (ht : ∀ c ∈ r.charts, made.Takes folder place (fileName c)) :
    ∃ done, (∀ c ∈ done, c ∈ r.charts) ∧ f.written.values = done ∧
      Holds folder made place done (f, ((ofReport folder r).execute former).1) := by
  obtain ⟨hp, hf⟩ := Disk.place?_of_makeFolder hm
  -- Charts after the one that is refused are not offered any more.
  obtain ⟨done, rest, hcs, -, hdone, hwrite⟩ := writeAll_eq_of_offerAll (f := empty folder) hp hf he
  have hmem : ∀ c ∈ done, c ∈ r.charts := fun c hc => hcs ▸ List.mem_append_left _ hc
  obtain ⟨⟨f', after⟩, ho, hholds⟩ := exists_offerAll hp hf fun c hc => ht c (hmem c hc)
  obtain ⟨rfl, hall⟩ := hwrite f' after ho
  have hvalues : f'.written.values = done := by
    rw [Roster.values, entries_of_emitAll hdone, placed, List.map_map]
    exact List.map_id done
  have hexecute : ((ofReport folder r).execute former).1 = after := by
    have hfiles : (ofReport folder r).files = done.map fun c => (fileName c, content c) := by
      rw [← hvalues]
      simp [ofReport, he]
    have hfolder : (ofReport folder r).folder = folder := rfl
    rw [execute, hfolder, hm, hfiles]
    exact congrArg Prod.fst hall
  exact ⟨done, hmem, hvalues, hexecute ▸ hholds⟩

end ChartPlan

namespace Report
open ChartFolder

/-- What a report leaves in a new folder: all its charts in files of their own, if its categories can be told
apart by their file names, or else the charts of the categories before the first that cannot be told from an
earlier one. Whatever a category is called, its file is never that of another sort of chart. The files are on the
disk, each with a document of its own chart alone, and nothing else there has changed. -/
theorem charts_emitted (s : Settings) (inputs : List Input) (folder : String) :
    let r := ofInputs s inputs
    ((∃ f, (empty folder).emitAll r.charts = (f, none)) ↔
      ∀ a ∈ r.reported, ∀ b ∈ r.reported,
        ChartFolder.fileStem a = ChartFolder.fileStem b → a = b) ∧
    (∀ f, (empty folder).emitAll r.charts = (f, none) →
      f.files = r.charts.map (file folder) ∧ List.Forall₂ (IsFileOf folder) r.charts f.files ∧
      (f.files.map Prod.fst).Nodup ∧ f.files.length = r.categories.length + 1 + r.comparisons.length) ∧
    (∀ f refusal, (empty folder).emitAll r.charts = (f, some refusal) →
      ∃ before c after, r.categories = before ++ c :: after ∧ (before.map (·.fileStem)).Nodup ∧
        (∃ d ∈ before, d.fileStem = c.fileStem ∧ refusal = ⟨d.pairing.category, c.pairing.category,
          Path.join folder ("category_" ++ c.fileStem ++ ".json")⟩) ∧
        f.files = (before.map fun d => file folder d.chart) ∧
        List.Forall₂ (fun d => IsFileOf folder d.chart) before f.files) ∧
    (∀ f refusal former made place, (empty folder).emitAll r.charts = (f, refusal) →
      former.makeFolder folder = some (made, place) → (∀ c ∈ r.charts, made.Takes folder place (fileName c)) →
      let after := (ChartPlan.ofReport folder r).execute former
      ((∃ event, after.2 = .ok event) ↔ refusal = none) ∧
        (∀ path text, (path, text) ∈ f.files → after.1.find path = .content text.toUTF8.toList) ∧
        (∀ q, (∀ c ∈ f.written.values, q ≠ place.inner (fileName c)) →
          after.1.files.lookup q = former.files.lookup q) ∧
        after.1.folders = made.folders) ∧
    ∀ b ss c, fileName (.category b) ≠ fileName (.ofStandings ss) ∧
      fileName (.category b) ≠ fileName (.ofComparison c) := by
  intro r
  refine ⟨?_, fun f h => ?_, fun f refusal h => ?_, fun f refusal former made place he hm ht => ?_,
    fun b ss c => ⟨fileName_category_ne_standings b ss, fileName_category_ne_comparison b c⟩⟩
  · rw [exists_emitAll_empty_iff, nodup_fileName_charts_iff, nodup_fileStem_iff]
  · have hf : f.files = r.charts.map (file folder) := (emitAll_empty_of_none h).1
    refine ⟨hf, hf ▸ forall₂_isFileOf folder id r.charts, f.nodup_files, ?_⟩
    rw [hf, List.length_map, charts_eq, List.length_append, categoryCharts, otherCharts]
    simp [Nat.add_assoc, Nat.add_comm 1]
  · obtain ⟨before, c, after, hc, hn, hr, hf⟩ := refused_exactly h
    exact ⟨before, c, after, hc, hn, hr, hf, hf ▸ forall₂_isFileOf folder _ before⟩
  · obtain ⟨done, hmem, hvalues, hholds⟩ := ChartPlan.holds_execute he hm ht
    obtain ⟨hp, hf⟩ := Disk.place?_of_makeFolder hm
    have hrefusal : (ChartPlan.ofReport folder r).refusal = refusal := by
      simp [ChartPlan.ofReport, he]
    refine ⟨?_, fun path text hfile => ?_, fun q hq => ?_, hholds.folders⟩
    · rw [← hrefusal]
      refine ChartPlan.execute_ok_iff hm fun file hfile => ?_
      obtain ⟨c, hc, rfl⟩ := ChartPlan.mem_files_ofReport hfile
      exact ht c hc
    · obtain ⟨c, hc, rfl⟩ := hholds.mem_files_iff.1 hfile
      obtain ⟨hcd, rfl⟩ := firstAt?_eq_some hc
      obtain ⟨first, hfirst, hfind⟩ := hholds.find_path hp hf (ht c (hmem c hcd)) hcd
      rw [hholds.path_eq, hc] at hfirst
      rw [hholds.path_eq] at hfind
      obtain rfl := Option.some.inj hfirst
      exact hfind
    · rw [hholds.stored, List.find?_eq_none.2 fun c hc => by simpa using (hq c (hvalues ▸ hc)).symm]
      rw [Disk.files_of_makeFolder hm]
      rfl

/-- Two categories that a file name does not tell apart, before a third one, on a bare disk. -/
theorem charts_emitted_blank_and_underscore :
    let entry (name : String) : Entry := ⟨name, some 4.0, "ns", none, none⟩
    let inputs : List Input := [⟨"run", [entry "a b/Encode_X", entry "a b/Decode_X", entry "a_b/Encode_X",
      entry "a_b/Decode_X", entry "c/Encode_X", entry "c/Decode_X"]⟩]
    let r := ofInputs ⟨.first, "X", .algorithms, false⟩ inputs
    ∃ f refusal, (empty "out").emitAll r.charts = (f, some refusal) ∧
      (∃ before c after, r.categories = before ++ c :: after ∧
        f.files = (before.map fun d => file "out" d.chart) ∧
        List.Forall₂ (fun d => IsFileOf "out" d.chart) before f.files) ∧
      (∀ event, ((ChartPlan.ofReport "out" r).execute Disk.bare).2 ≠ .ok event) ∧
      ∀ path text, (path, text) ∈ f.files →
        ((ChartPlan.ofReport "out" r).execute Disk.bare).1.find path = .content text.toUTF8.toList := by
  intro entry inputs r
  obtain ⟨hok, -, hrefused, hdisk, -⟩ := charts_emitted ⟨.first, "X", .algorithms, false⟩ inputs "out"
  have hr : r.reported = ["a b", "a_b", "c"] := by decide +kernel
  have ht : ∀ name ∈ r.charts.map fileName,
      (⟨Disk.bare.files, Disk.bare.folders ++ [Place.here.inner "out"]⟩ : Disk).Takes "out"
        (Place.here.inner "out") name := by
    decide +kernel
  cases h : (empty "out").emitAll r.charts with
  | mk f refusal =>
    cases refusal with
    | none =>
      have hab := hok.1 ⟨f, h⟩ "a b" (by rw [hr]; decide) "a_b" (by rw [hr]; decide) (by decide +kernel)
      exact absurd hab (by decide)
    | some refusal =>
      obtain ⟨before, c, after, hc, -, -, hf, hall⟩ := hrefused f refusal h
      obtain ⟨hfails, hfind, -⟩ := hdisk f (some refusal) _ _ _ h makeFolder_bare fun c hc =>
        ht _ (List.mem_map_of_mem hc)
      refine ⟨f, refusal, rfl, ⟨before, c, after, hc, hf, hall⟩, fun event he => ?_, hfind⟩
      exact absurd (hfails.1 ⟨event, he⟩) (by simp)

end Report
end CodecBench
