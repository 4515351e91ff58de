import CodecBench.Proofs.Diagnostics
/-!
Isolation of categories: what a report says of a category, be it a report or the reason for leaving it out,
depends on the entries of that category in the first input and on the baseline algorithm alone
(`Report.category_isolated`).
-/

namespace CodecBench
namespace Entry

def category? (e : Entry) : Option String := (success? (Name.read e.name)).map (·.category)

def ofCategory (c : String) (es : List Entry) : List Entry :=
  es.filter fun e => e.isAggregate = false ∧ e.category? = some c

theorem category?_of_measured {e : Entry} {m : Measurement} (h : e.read.measurement? = some m) :
    e.isAggregate = false ∧ e.category? = some m.category := by
  obtain ⟨ha, hm⟩ := measurement?_eq_some_iff.1 h
  obtain ⟨name, t, unit, hn, -, -, -, rfl⟩ := Measurement.ofEntry_eq_ok_iff.1 hm
  exact ⟨ha, by simp [category?, hn]⟩

theorem filter_measurements (c : String) (es : List Entry) :
    (measurements es).filter (fun m => m.category = c) = measurements (ofCategory c es) := by
  rw [measurements, measurements, ofCategory, List.filter_filterMap, List.filterMap_filter]
  refine List.filterMap_congr fun e _ => ?_
  cases h : e.read.measurement? with
  | none => simp
  | some m =>
    obtain ⟨ha, hc⟩ := category?_of_measured h
    by_cases hm : m.category = c
    · simp [ha, hc, hm]
    · simp [hc, hm]

end Entry

namespace Category
variable {ms ns : List Measurement} {c : String}

theorem side_eq_filter (kind : Kind) (c : String) (ms : List Measurement) :
    side kind c ms = (ms.filter fun m => m.category = c).filter fun m => m.kind = kind := by
  rw [side, List.filter_filter]
  refine List.filter_congr fun m _ => ?_
  simp [Bool.and_comm]

theorem select_congr (h : (ms.filter fun m => m.category = c) = ns.filter fun m => m.category = c) :
    select ms c = select ns c := by
  have hs : ∀ kind, side kind c ms = side kind c ns := fun kind => by
    rw [side_eq_filter, h, ← side_eq_filter]
  rw [select, select, hs, hs]

theorem nodup_names (ms : List Measurement) : (names ms).Nodup := nodup_eraseDups _

theorem mem_names_iff :
    c ∈ names ms ↔ ∃ m ∈ ms.filter fun m => m.category = c, m.kind.isMeasured := by
  simp only [names, measured, List.mem_eraseDups, List.mem_map, List.mem_filter, decide_eq_true_eq]
  constructor
  · intro h
    obtain ⟨m, ⟨hm, hk⟩, hc⟩ := h
    exact ⟨m, ⟨hm, hc⟩, hk⟩
  · intro h
    obtain ⟨m, ⟨hm, hc⟩, hk⟩ := h
    exact ⟨m, ⟨hm, hk⟩, hc⟩

end Category

def Diagnostic.skips (c : String) : Diagnostic → Bool
  | .skipped category _ => category = c
  | _ => false

namespace Report

def reportsOf (c : String) (r : Report) : List CategoryReport :=
  r.categories.filter fun x => x.pairing.category = c

def skipsOf (c : String) (r : Report) : List Diagnostic := r.diagnostics.filter (·.skips c)

/-- The verdict on a category shows in what is reported under its name and nowhere else. -/
theorem reportsOf_ofInputs (s : Settings) (inputs : List Input) (c : String) :
    reportsOf c (ofInputs s inputs) =
      if c ∈ Category.names (primary inputs) then (success? (verdict s inputs c)).toList else [] := by
  rw [reportsOf, ofInputs, verdicts_eq, List.filterMap_map]
  refine filter_filterMap_of_nodup (Category.nodup_names _) fun name r hr => ?_
  rw [category_of_verdict (success?_eq_some_iff.1 hr)]

theorem skipsOf_ofInputs (s : Settings) (inputs : List Input) (c : String) :
    skipsOf c (ofInputs s inputs) =
      if c ∈ Category.names (primary inputs) then (failure? (verdict s inputs c)).toList else [] := by
  have hr : (inputs.flatMap fun i => (Entry.rejections i.entries).map Diagnostic.rejected).filter
      (·.skips c) = [] := by
    rw [List.filter_flatMap, List.flatMap_eq_nil_iff]
    intro i _
    simp [List.filter_map, Function.comp_def, Diagnostic.skips]
  have hu : (((outcomes s inputs).filterMap failure?).map Diagnostic.uncompared).filter
      (·.skips c) = [] := by
    simp [List.filter_map, Function.comp_def, Diagnostic.skips]
  simp only [skipsOf, ofInputs, List.filter_append, hr, hu, List.nil_append, List.append_nil]
  rw [verdicts_eq, List.filterMap_map]
  refine filter_filterMap_of_nodup (Category.nodup_names _) fun name d hd => ?_
  obtain ⟨fault, rfl⟩ := skipped_of_verdict (failure?_eq_some_iff.1 hd)
  rfl

def firstEntries : List Input → List Entry
  | [] => []
  | first :: _ => first.entries

theorem primary_eq (inputs : List Input) : primary inputs = Entry.measurements (firstEntries inputs) := by
  cases inputs <;> rfl

/-- Two runs that relate to the same baseline algorithm and agree on the entries of a category in their
first inputs agree on that category: both report it alike, both skip it for the same reason, or neither
knows of it. -/
theorem category_isolated (c : String) (s t : Settings) (inputs others : List Input)
    (hb : s.baseline = t.baseline)
    (he : Entry.ofCategory c (firstEntries inputs) = Entry.ofCategory c (firstEntries others)) :
    (∃ r, reportsOf c (ofInputs s inputs) = [r] ∧ reportsOf c (ofInputs t others) = [r] ∧
      skipsOf c (ofInputs s inputs) = [] ∧ skipsOf c (ofInputs t others) = []) ∨
    (∃ fault, reportsOf c (ofInputs s inputs) = [] ∧ reportsOf c (ofInputs t others) = [] ∧
      skipsOf c (ofInputs s inputs) = [.skipped c fault] ∧
      skipsOf c (ofInputs t others) = [.skipped c fault]) ∨
    (reportsOf c (ofInputs s inputs) = [] ∧ reportsOf c (ofInputs t others) = [] ∧
      skipsOf c (ofInputs s inputs) = [] ∧ skipsOf c (ofInputs t others) = []) := by
  have hm : (primary inputs).filter (fun m => m.category = c) =
      (primary others).filter fun m => m.category = c := by
    rw [primary_eq, primary_eq, Entry.filter_measurements, Entry.filter_measurements, he]
  have hn : c ∈ Category.names (primary inputs) ↔ c ∈ Category.names (primary others) := by
    rw [Category.mem_names_iff, Category.mem_names_iff, hm]
  have hv : verdict s inputs c = verdict t others c := by
    rw [verdict, verdict, Category.select_congr hm, hb]
  rw [reportsOf_ofInputs, reportsOf_ofInputs, skipsOf_ofInputs, skipsOf_ofInputs, hv]
  by_cases hc : c ∈ Category.names (primary others)
  · rw [if_pos (hn.2 hc), if_pos (hn.2 hc), if_pos hc, if_pos hc]
    cases h : verdict t others c with
    | ok r => exact .inl ⟨r, rfl, rfl, rfl, rfl⟩
    | error d =>
      obtain ⟨fault, rfl⟩ := skipped_of_verdict h
      exact .inr (.inl ⟨fault, rfl, rfl, rfl, rfl⟩)
  · have hc' : c ∉ Category.names (primary inputs) := fun h => hc (hn.1 h)
    rw [if_neg hc', if_neg hc', if_neg hc, if_neg hc]
    exact .inr (.inr ⟨rfl, rfl, rfl, rfl⟩)

theorem category_isolated_among_others :
    let encode : Entry := ⟨"a/Encode_X", some 4.0, some "ns", none, none⟩
    let decode : Entry := ⟨"a/Decode_X", some 1.0, some "ns", none, none⟩
    let inputs : List Input := [⟨"run", [encode, decode]⟩]
    let others : List Input :=
      [⟨"first", [⟨"b/Encode_X", some 2.0, some "us", none, none⟩, encode, ⟨"a", none, none, none, none⟩,
        ⟨"a/Encode_X", some 3.0, some "ns", none, some "aggregate"⟩, decode]⟩, ⟨"second", [decode]⟩]
    ∃ r, reportsOf "a" (ofInputs ⟨.first, "X", .algorithms, false⟩ inputs) = [r] ∧
      reportsOf "a" (ofInputs ⟨.first, "second", .runs, true⟩ others) = [r] := by
  intro encode decode inputs others
  have hm : "a" ∈ (ofInputs ⟨.first, "X", .algorithms, false⟩ inputs).reported := by
    refine mem_reported_iff.2 ⟨by decide +kernel, by decide +kernel, by decide +kernel,
      by decide +kernel, ?_⟩
    intro a ha
    cases ha
  have hne : reportsOf "a" (ofInputs ⟨.first, "X", .algorithms, false⟩ inputs) ≠ [] := by
    obtain ⟨r, hr, ha⟩ := List.mem_map.1 hm
    exact List.ne_nil_of_mem (List.mem_filter.2 ⟨hr, by simpa using ha⟩)
  obtain ⟨r, hr, hr', -⟩ | ⟨fault, h, -⟩ | ⟨h, -⟩ :=
    category_isolated "a" ⟨.first, "X", .algorithms, false⟩ ⟨.first, "second", .runs, true⟩ inputs others
      rfl rfl
  · exact ⟨r, hr, hr'⟩
  · exact absurd h hne
  · exact absurd h hne

end Report
end CodecBench
