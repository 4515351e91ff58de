import CodecBench.Grid
import CodecBench.Proofs.Grammar
import CodecBench.Proofs.Lists
/-!
What readings are: a text is a name exactly if it is written from well-formed parts
(`Name.read_eq_ok_iff`), an entry gives a measurement exactly if its name, time and unit pass
(`Measurement.ofEntry_eq_ok_iff`), and entries give the measurements of those that are no aggregates
(`Entry.mem_measurements_iff`). The parts of a name hold no slash, so that the category and the algorithm
can be told from the two glued together (`VariantSource.runs_subject_injective`).
-/

namespace CodecBench
namespace Name

/-- Parts that can be told apart in the text of a name. The tag may be empty. -/
structure WellFormed (n : Name) : Prop where
  category_ne_nil : n.category.toList ≠ []
  slash_notMem_category : '/' ∉ n.category.toList
  kind_eq : n.kind = .ofTag n.kind.tag
  slash_notMem_tag : '/' ∉ n.kind.tag.toList
  underscore_notMem_tag : '_' ∉ n.kind.tag.toList
  algorithm_ne_nil : n.algorithm.toList ≠ []
  slash_notMem_algorithm : '/' ∉ n.algorithm.toList
  underscore_notMem_algorithm : '_' ∉ n.algorithm.toList

theorem wellFormed_iff {n : Name} : n.WellFormed ↔ ∃ p : Parts, p.Admitted ∧ n = p.name := by
  constructor
  · intro h
    refine ⟨⟨n.category, n.kind.tag, n.algorithm⟩, ⟨⟨h.slash_notMem_category, h.slash_notMem_tag,
      h.underscore_notMem_tag, h.slash_notMem_algorithm, h.underscore_notMem_algorithm⟩, ?_, ?_⟩, ?_⟩
    · simpa using h.category_ne_nil
    · simpa using h.algorithm_ne_nil
    · rw [Parts.name, ← h.kind_eq]
  · intro h
    obtain ⟨p, hp, rfl⟩ := h
    constructor <;> simp [Parts.name, hp.category_ne_empty, hp.slash_notMem_category, hp.slash_notMem_tag,
      hp.underscore_notMem_tag, hp.algorithm_ne_empty, hp.slash_notMem_algorithm, hp.underscore_notMem_algorithm]

theorem read_eq_ok_iff {s : String} {n : Name} : read s = .ok n ↔ s = n.text ∧ n.WellFormed := by
  rw [read_eq_ok_iff_parts, wellFormed_iff]
  constructor
  · intro h
    obtain ⟨p, hp, rfl, rfl⟩ := h
    exact ⟨p.text_name.symm, p, hp, rfl⟩
  · intro h
    obtain ⟨rfl, p, hp, rfl⟩ := h
    exact ⟨p, hp, p.text_name, rfl⟩

end Name

theorem Measurement.ofEntry_eq_ok_iff {e : Entry} {m : Measurement} :
    ofEntry e = .ok m ↔ ∃ name t unit, Name.read e.name = .ok name ∧ e.cpuTime = some t ∧
      isDuration t ∧ e.timeUnit = some unit ∧
      m = ⟨name.category, name.kind, name.algorithm, t, unit, e.label⟩ := by
  unfold ofEntry
  cases Name.read e.name with
  | error fault => simp
  | ok name =>
    cases e.cpuTime with
    | none => simp
    | some t =>
      by_cases ht : isDuration t
      · cases e.timeUnit with
        | none => simp [ht]
        | some unit => simpa [ht] using eq_comm
      · simp [ht]

theorem Measurement.exists_wellFormed {e : Entry} {m : Measurement} (h : ofEntry e = .ok m) :
    ∃ name : Name, name.WellFormed ∧ m.category = name.category ∧ m.algorithm = name.algorithm := by
  obtain ⟨name, t, unit, hn, -, -, -, rfl⟩ := ofEntry_eq_ok_iff.1 h
  exact ⟨name, (Name.read_eq_ok_iff.1 hn).2, rfl, rfl⟩

theorem Entry.measurement?_eq_some_iff {e : Entry} {m : Measurement} :
    e.read.measurement? = some m ↔ e.isAggregate = false ∧ Measurement.ofEntry e = .ok m := by
  unfold read
  cases e.isAggregate with
  | true => simp [Reading.measurement?]
  | false => cases Measurement.ofEntry e <;> simp [Reading.measurement?]

theorem Entry.mem_measurements_iff {es : List Entry} {m : Measurement} :
    m ∈ measurements es ↔ ∃ e ∈ es, e.isAggregate = false ∧ Measurement.ofEntry e = .ok m := by
  simp only [measurements, List.mem_filterMap, measurement?_eq_some_iff]

theorem Entry.isDuration_of_mem {es : List Entry} {m : Measurement} (h : m ∈ measurements es) :
    isDuration m.cpuTime := by
  obtain ⟨e, -, -, he⟩ := mem_measurements_iff.1 h
  obtain ⟨name, t, unit, -, -, ht, -, rfl⟩ := Measurement.ofEntry_eq_ok_iff.1 he
  exact ht

def Measurement.name (m : Measurement) : Name := ⟨m.category, m.kind, m.algorithm⟩

theorem Measurement.name_eq {e : Entry} {m : Measurement} (h : ofEntry e = .ok m) :
    e.name = m.name.text := by
  obtain ⟨name, t, unit, hn, -, -, -, rfl⟩ := ofEntry_eq_ok_iff.1 h
  exact (Name.read_eq_ok_iff.1 hn).1

def Entry.names (es : List Entry) : List String :=
  (es.filter fun e => e.isAggregate = false).map (·.name)

theorem Entry.map_text_measurements_sublist (es : List Entry) :
    (((measurements es).map (·.name)).map Name.text).Sublist (names es) := by
  induction es with
  | nil => exact .slnil
  | cons e es ih =>
    have hn : (names es).Sublist (names (e :: es)) :=
      ((List.sublist_cons_self e es).filter _).map _
    cases h : e.read.measurement? with
    | none =>
      have hm : measurements (e :: es) = measurements es := List.filterMap_cons_none h
      rw [hm]
      exact ih.trans hn
    | some m =>
      obtain ⟨ha, ho⟩ := measurement?_eq_some_iff.1 h
      have hm : measurements (e :: es) = m :: measurements es := List.filterMap_cons_some h
      have hne : names (e :: es) = m.name.text :: names es := by
        simp [names, ha, Measurement.name_eq ho]
      rw [hm, hne, List.map_cons, List.map_cons]
      exact ih.cons_cons _

theorem Entry.nodup_map_name {es : List Entry} (h : (names es).Nodup) :
    ((measurements es).map (·.name)).Nodup :=
  (h.sublist (map_text_measurements_sublist es)).of_map

theorem VariantSource.toList_runs_subject (m : Measurement) :
    (runs.subject m).toList = m.category.toList ++ '/' :: m.algorithm.toList := by
  simp [subject, String.toList_append]

theorem VariantSource.runs_subject_injective {e f : Entry} {m n : Measurement}
    (hm : Measurement.ofEntry e = .ok m) (hn : Measurement.ofEntry f = .ok n)
    (h : runs.subject m = runs.subject n) : m.category = n.category ∧ m.algorithm = n.algorithm := by
  have hs : ∀ {e : Entry} {m : Measurement}, Measurement.ofEntry e = .ok m →
      Name.splitOnce? '/' (runs.subject m).toList = some (m.category.toList, m.algorithm.toList) := by
    intro e m hm
    obtain ⟨name, hw, hc, ha⟩ := Measurement.exists_wellFormed hm
    rw [Name.splitOnce?_eq_some_iff, hc, ha]
    refine ⟨?_, hw.slash_notMem_category, hw.slash_notMem_algorithm⟩
    rw [toList_runs_subject, hc, ha]
  have he := (hs hm).symm.trans ((congrArg _ (congrArg _ h)).trans (hs hn))
  simpa [String.toList_inj] using he

end CodecBench
