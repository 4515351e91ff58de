import CodecBench.Proofs.Measurement
/-!
Splitting entries into measurements and rejections. What an entry may give is said of its fields alone: a measurement
that it is accepted as (`Entry.Accepted`), or the rejection for the first of its fields that fails (`Entry.Refused`).
One of them there always is, and reading an entry finds it; so the two lists of a reading are built entry by entry
(`Entry.Splits`), and no entry has a part in what another one gives (`Entry.split_exactly`).
-/

namespace CodecBench

/-- A measurement as later stages rely on it: its category and its algorithm can be told apart when they are put
together, and its time can be related to. -/
structure Measurement.WellFormed (m : Measurement) : Prop where
  category_ne_empty : m.category ≠ ""
  slash_notMem_category : '/' ∉ m.category.toList
  algorithm_ne_empty : m.algorithm ≠ ""
  slash_notMem_algorithm : '/' ∉ m.algorithm.toList
  underscore_notMem_algorithm : '_' ∉ m.algorithm.toList
  isFinite_cpuTime : m.cpuTime.isFinite
  cpuTime_not_neg : ¬ m.cpuTime < 0.0

namespace Entry

def IsNamed (e : Entry) : Prop := ∃ p : Name.Parts, p.Admitted ∧ e.name = p.text

structure Accepted (e : Entry) (m : Measurement) : Prop where
  name : ∃ p : Name.Parts, p.Admitted ∧ e.name = p.text ∧ m.name = p.name
  cpuTime : e.cpuTime = some m.cpuTime
  isFinite_cpuTime : m.cpuTime.isFinite
  cpuTime_not_neg : ¬ m.cpuTime < 0.0
  timeUnit : e.timeUnit = some m.timeUnit
  label : e.label = m.label

/-- The rejection of an entry for its first defect. -/
inductive Refused (e : Entry) : Rejection → Prop where
  | name {fault} (h : Name.Flawed e.name fault) : Refused e (.malformedName e.name fault)
  | noTime (hn : e.IsNamed) (h : e.cpuTime = none) : Refused e (.missingField e.name .cpuTime)
  | badTime {t} (hn : e.IsNamed) (ht : e.cpuTime = some t) (h : ¬ (t.isFinite ∧ ¬ t < 0.0)) :
      Refused e (.invalidCpuTime e.name t)
  | noUnit {t} (hn : e.IsNamed) (ht : e.cpuTime = some t) (h : t.isFinite ∧ ¬ t < 0.0)
      (hu : e.timeUnit = none) : Refused e (.missingField e.name .timeUnit)

/-- Entries with their measurements and their rejections, each in the order of the entries. -/
inductive Splits : List Entry → List Measurement → List Rejection → Prop where
  | nil : Splits [] [] []
  | aggregate {e es ms rs} (ha : e.runType = some "aggregate") (h : Splits es ms rs) : Splits (e :: es) ms rs
  | accepted {e es m ms rs} (ha : e.runType ≠ some "aggregate") (hm : e.Accepted m) (h : Splits es ms rs) :
      Splits (e :: es) (m :: ms) rs
  | refused {e es ms r rs} (ha : e.runType ≠ some "aggregate") (hr : e.Refused r) (h : Splits es ms rs) :
      Splits (e :: es) ms (r :: rs)

theorem isDuration_iff {t : Float} : isDuration t ↔ t.isFinite ∧ ¬ t < 0.0 := by
  simp [isDuration]

theorem IsNamed.exists_read {e : Entry} (h : e.IsNamed) : ∃ name, Name.read e.name = .ok name :=
  Name.exists_read_iff.2 h

theorem Accepted.ofEntry {e : Entry} {m : Measurement} (h : e.Accepted m) : Measurement.ofEntry e = .ok m := by
  obtain ⟨p, hp, hname, hm⟩ := h.name
  have ht : isDuration m.cpuTime := isDuration_iff.2 ⟨h.isFinite_cpuTime, h.cpuTime_not_neg⟩
  refine Measurement.ofEntry_eq_ok_iff.2 ⟨p.name, m.cpuTime, m.timeUnit, hname ▸ hp.read, h.cpuTime, ht,
    h.timeUnit, ?_⟩
  rw [← hm, h.label]
  rfl

theorem Refused.ofEntry {e : Entry} {r : Rejection} (h : e.Refused r) : Measurement.ofEntry e = .error r := by
  cases h with
  | name h => simp [Measurement.ofEntry, h.read]
  | noTime hn h =>
    obtain ⟨name, hname⟩ := hn.exists_read
    simp [Measurement.ofEntry, hname, h]
  | badTime hn ht h =>
    obtain ⟨name, hname⟩ := hn.exists_read
    simp [Measurement.ofEntry, hname, ht, isDuration_iff, h]
  | noUnit hn ht h hu =>
    obtain ⟨name, hname⟩ := hn.exists_read
    simp [Measurement.ofEntry, hname, ht, isDuration_iff, h, hu]

theorem exists_accepted_iff {e : Entry} :
    (∃ m, e.Accepted m) ↔ e.IsNamed ∧ (∃ t, e.cpuTime = some t ∧ t.isFinite ∧ ¬ t < 0.0) ∧
      ∃ unit, e.timeUnit = some unit := by
  constructor
  · intro h
    obtain ⟨m, h⟩ := h
    obtain ⟨p, hp, hname, -⟩ := h.name
    exact ⟨⟨p, hp, hname⟩, ⟨m.cpuTime, h.cpuTime, h.isFinite_cpuTime, h.cpuTime_not_neg⟩, m.timeUnit, h.timeUnit⟩
  · intro h
    obtain ⟨⟨p, hp, hname⟩, ⟨t, ht, hf, hd⟩, unit, hu⟩ := h
    exact ⟨⟨p.category, .ofTag p.tag, p.algorithm, t, unit, e.label⟩, ⟨p, hp, hname, rfl⟩, ht, hf, hd, hu, rfl⟩

theorem accepted_or_refused (e : Entry) : (∃ m, e.Accepted m) ∨ ∃ r, e.Refused r := by
  obtain hn | ⟨fault, hf⟩ := Name.admitted_or_flawed e.name
  · cases ht : e.cpuTime with
    | none => exact .inr ⟨_, .noTime hn ht⟩
    | some t =>
      by_cases hd : t.isFinite ∧ ¬ t < 0.0
      · cases hu : e.timeUnit with
        | none => exact .inr ⟨_, .noUnit hn ht hd hu⟩
        | some unit => exact .inl (exists_accepted_iff.2 ⟨hn, ⟨t, ht, hd⟩, unit, hu⟩)
      · exact .inr ⟨_, .badTime hn ht hd⟩
  · exact .inr ⟨_, .name hf⟩

theorem ofEntry_iff (e : Entry) :
    (∀ m, Measurement.ofEntry e = .ok m ↔ e.Accepted m) ∧
      ∀ r, Measurement.ofEntry e = .error r ↔ e.Refused r :=
  outcome_iff (fun _ => Accepted.ofEntry) (fun _ => Refused.ofEntry) e.accepted_or_refused

theorem Accepted.wellFormed {e : Entry} {m : Measurement} (h : e.Accepted m) : m.WellFormed := by
  obtain ⟨p, hp, -, hm⟩ := h.name
  obtain ⟨hc, -, ha⟩ := Name.mk.inj hm
  exact ⟨hc ▸ hp.category_ne_empty, hc ▸ hp.slash_notMem_category, ha ▸ hp.algorithm_ne_empty,
    ha ▸ hp.slash_notMem_algorithm, ha ▸ hp.underscore_notMem_algorithm, h.isFinite_cpuTime, h.cpuTime_not_neg⟩

theorem read_of_aggregate {e : Entry} (h : e.runType = some "aggregate") : e.read = .aggregate e.name := by
  simp [read, isAggregate, h]

theorem Accepted.read {e : Entry} {m : Measurement} (h : e.Accepted m) (ha : e.runType ≠ some "aggregate") :
    e.read = .measured m := by
  simp [Entry.read, isAggregate, ha, h.ofEntry]

theorem Refused.read {e : Entry} {r : Rejection} (h : e.Refused r) (ha : e.runType ≠ some "aggregate") :
    e.read = .rejected r := by
  simp [Entry.read, isAggregate, ha, h.ofEntry]

theorem Splits.eq {es : List Entry} {ms : List Measurement} {rs : List Rejection} (h : Splits es ms rs) :
    measurements es = ms ∧ rejections es = rs := by
  induction h with
  | nil => exact ⟨rfl, rfl⟩
  | aggregate ha _ ih =>
    obtain ⟨rfl, rfl⟩ := ih
    simp [measurements, rejections, read_of_aggregate ha, Reading.measurement?, Reading.rejection?]
  | accepted ha hm _ ih =>
    obtain ⟨rfl, rfl⟩ := ih
    simp [measurements, rejections, hm.read ha, Reading.measurement?, Reading.rejection?]
  | refused ha hr _ ih =>
    obtain ⟨rfl, rfl⟩ := ih
    simp [measurements, rejections, hr.read ha, Reading.measurement?, Reading.rejection?]

theorem exists_splits (es : List Entry) : ∃ ms rs, Splits es ms rs := by
  induction es with
  | nil => exact ⟨[], [], .nil⟩
  | cons e es ih =>
    obtain ⟨ms, rs, h⟩ := ih
    by_cases ha : e.runType = some "aggregate"
    · exact ⟨ms, rs, .aggregate ha h⟩
    · obtain ⟨m, hm⟩ | ⟨r, hr⟩ := e.accepted_or_refused
      · exact ⟨m :: ms, rs, .accepted ha hm h⟩
      · exact ⟨ms, r :: rs, .refused ha hr h⟩

theorem splits_iff {es : List Entry} {ms : List Measurement} {rs : List Rejection} :
    Splits es ms rs ↔ measurements es = ms ∧ rejections es = rs := by
  constructor
  · exact Splits.eq
  · intro h
    obtain ⟨rfl, rfl⟩ := h
    obtain ⟨ms, rs, h⟩ := exists_splits es
    obtain ⟨rfl, rfl⟩ := h.eq
    exact h

theorem splits_singleton {e : Entry} (ha : e.runType ≠ some "aggregate") :
    (∃ m, e.Accepted m ∧ measurements [e] = [m] ∧ rejections [e] = []) ∨
      ∃ r, e.Refused r ∧ measurements [e] = [] ∧ rejections [e] = [r] := by
  obtain ⟨m, hm⟩ | ⟨r, hr⟩ := e.accepted_or_refused
  · exact .inl ⟨m, hm, (Splits.accepted ha hm .nil).eq⟩
  · exact .inr ⟨r, hr, (Splits.refused ha hr .nil).eq⟩

theorem exists_measurements_singleton_iff {e : Entry} (ha : e.runType ≠ some "aggregate") :
    (∃ m, measurements [e] = [m]) ↔ ∃ m, e.Accepted m := by
  constructor
  · intro h
    obtain ⟨m, h⟩ := h
    obtain ⟨n, hn, -, -⟩ | ⟨r, -, hr, -⟩ := splits_singleton ha
    · exact ⟨n, hn⟩
    · rw [h] at hr
      cases hr
  · intro h
    obtain ⟨m, hm⟩ := h
    exact ⟨m, (Splits.accepted ha hm .nil).eq.1⟩

theorem accepted_of_mem {es : List Entry} {m : Measurement} (h : m ∈ measurements es) :
    ∃ e ∈ es, e.runType ≠ some "aggregate" ∧ e.Accepted m := by
  obtain ⟨e, he, ha, hm⟩ := mem_measurements_iff.1 h
  exact ⟨e, he, by simpa [isAggregate] using ha, (ofEntry_iff e).1 m |>.1 hm⟩

/-- Entries are split in their order and one by one: aggregates give nothing, any other entry gives its measurement if
its name, its time and its unit pass, and else the rejection for the first of them that does not. -/
theorem split_exactly (es : List Entry) :
    (∀ ms rs, Splits es ms rs ↔ measurements es = ms ∧ rejections es = rs) ∧
    (∀ fs, measurements (es ++ fs) = measurements es ++ measurements fs ∧
      rejections (es ++ fs) = rejections es ++ rejections fs) ∧
    (∀ e, e.runType = some "aggregate" → measurements [e] = [] ∧ rejections [e] = []) ∧
    (∀ e, e.runType ≠ some "aggregate" →
      ((∃ m, e.Accepted m ∧ measurements [e] = [m] ∧ rejections [e] = []) ∨
        ∃ r, e.Refused r ∧ measurements [e] = [] ∧ rejections [e] = [r]) ∧
      ((∃ m, measurements [e] = [m]) ↔ e.IsNamed ∧ (∃ t, e.cpuTime = some t ∧ t.isFinite ∧ ¬ t < 0.0) ∧
        ∃ unit, e.timeUnit = some unit)) ∧
    ∀ m ∈ measurements es, m.WellFormed ∧
      ∃ e ∈ es, e.runType ≠ some "aggregate" ∧ e.Accepted m ∧ e.timeUnit = some m.timeUnit ∧ e.label = m.label := by
  refine ⟨fun _ _ => splits_iff, fun fs => ⟨List.filterMap_append, List.filterMap_append⟩,
    fun e ha => (Splits.aggregate ha .nil).eq, fun e ha => ⟨splits_singleton ha, ?_⟩, fun m hm => ?_⟩
  · exact (exists_measurements_singleton_iff ha).trans exists_accepted_iff
  · obtain ⟨e, he, ha, h⟩ := accepted_of_mem hm
    exact ⟨h.wellFormed, e, he, ha, h, h.timeUnit, h.label⟩

/-- A measurement between a malformed aggregate and an entry with two defects. -/
theorem split_exactly_mixed :
    let aggregate : Entry := ⟨"a_mean", none, none, none, some "aggregate"⟩
    let sound : Entry := ⟨"a/Encode_X", some 1.0, some "ns", some "one", none⟩
    let faulty : Entry := ⟨"a/Decode_X", some (-1.0), none, none, none⟩
    let m : Measurement := ⟨"a", .encode, "X", 1.0, "ns", some "one"⟩
    measurements [aggregate, sound, faulty] = [m] ∧
      rejections [aggregate, sound, faulty] = [.invalidCpuTime "a/Decode_X" (-1.0)] ∧
      rejections [aggregate] = [] ∧ (¬ ∃ n, measurements [faulty] = [n]) ∧ m.WellFormed := by
  intro aggregate sound faulty m
  have hm : sound.Accepted m := ⟨⟨⟨"a", "Encode", "X"⟩, by decide, rfl, rfl⟩, rfl, by decide, by decide, rfl, rfl⟩
  have hr : faulty.Refused (.invalidCpuTime "a/Decode_X" (-1.0)) :=
    .badTime ⟨⟨"a", "Decode", "X"⟩, by decide, rfl⟩ rfl (by decide)
  obtain ⟨hsplits, -, haggregate, hother, hall⟩ := split_exactly [aggregate, sound, faulty]
  obtain ⟨hms, hrs⟩ := (hsplits _ _).1 (.aggregate rfl (.accepted (by decide) hm (.refused (by decide) hr .nil)))
  refine ⟨hms, hrs, (haggregate aggregate rfl).2, fun h => ?_, (hall m (by simp [hms])).1⟩
  obtain ⟨-, -, unit, hu⟩ := (hother faulty (by decide)).2.1 h
  cases hu

end Entry
end CodecBench
