import CodecBench.Proofs.Diagnostics
/-!
What is told of entries. An entry that is not measured has one line of its own (`Entry.line?`): that it is an
aggregate, that it is rejected, or that its kind is neither encoding nor decoding. All these lines are told but the
ones about other kinds in the inputs after the first, whose measurements only enter the comparisons
(`Report.entries_accounted_exactly`).
-/

namespace CodecBench

def Entry.line? (e : Entry) : Option Event :=
  match e.read with
  | .aggregate name => some (.aggregateSkipped name)
  | .rejected r => some (.diagnosed (.rejected r))
  | .measured m => if m.kind.isMeasured then none else some (.setAside m)

def Event.isOfEntry : Event → Bool
  | .aggregateSkipped _ | .setAside _ | .diagnosed (.rejected _) => true
  | _ => false

def Diagnostic.isRejection : Diagnostic → Bool
  | .rejected _ => true
  | _ => false

namespace Entry

theorem line?_eq_none_iff {e : Entry} :
    e.line? = none ↔ ∃ m, e.read = .measured m ∧ (m.kind = .encode ∨ m.kind = .decode) := by
  rw [line?]
  cases e.read with
  | aggregate name => simp
  | rejected r => simp
  | measured m => simp [← Kind.isMeasured_iff]

theorem line?_eq_or (e : Entry) :
    e.line? = ((e.read.aggregate?.map .aggregateSkipped).or
      (e.read.rejection?.map fun r => .diagnosed (.rejected r))).or
        ((e.read.measurement?.filter fun m => !m.kind.isMeasured).map .setAside) := by
  rw [line?]
  cases e.read with
  | aggregate name => rfl
  | rejected r => rfl
  | measured m =>
    cases hm : m.kind.isMeasured <;>
      simp [Reading.aggregate?, Reading.rejection?, Reading.measurement?, Option.filter_some, hm]

theorem lines_perm (es : List Entry) :
    (es.filterMap line?).Perm ((aggregates es).map .aggregateSkipped ++
      (rejections es).map (fun r => .diagnosed (.rejected r)) ++
      (Category.setAside (measurements es)).map .setAside) := by
  rw [funext line?_eq_or, aggregates, rejections, Category.setAside, measurements, List.filter_filterMap,
    List.map_filterMap, List.map_filterMap, List.map_filterMap]
  have hfirst : ∀ e : Entry, e.read.aggregate?.map Event.aggregateSkipped = none ∨
      (e.read.rejection?.map fun r => Event.diagnosed (.rejected r)) = none := by
    intro e
    cases e.read <;> simp [Reading.aggregate?, Reading.rejection?]
  have hsecond : ∀ e : Entry, (e.read.aggregate?.map Event.aggregateSkipped).or
      (e.read.rejection?.map fun r => Event.diagnosed (.rejected r)) = none ∨
        (e.read.measurement?.filter fun m => !m.kind.isMeasured).map Event.setAside = none := by
    intro e
    cases e.read <;> simp [Reading.aggregate?, Reading.rejection?, Reading.measurement?]
  exact (filterMap_or_perm hsecond es).trans ((filterMap_or_perm hfirst es).append_right _)

theorem length_measured_add (es : List Entry) :
    (Category.measured (measurements es)).length + (es.filterMap line?).length = es.length := by
  have hm : (Category.measured (measurements es)).length = es.countP fun e => ¬ e.line?.isSome := by
    rw [Category.measured, measurements, List.filter_filterMap, List.length_filterMap_eq_countP]
    refine List.countP_congr fun e _ => ?_
    rw [line?]
    cases e.read with
    | aggregate name => simp [Reading.measurement?]
    | rejected r => simp [Reading.measurement?]
    | measured m => cases hm : m.kind.isMeasured <;> simp [Reading.measurement?, hm]
  rw [hm, List.length_filterMap_eq_countP, Nat.add_comm]
  exact (List.length_eq_countP_add_countP _).symm

end Entry

namespace Report

def entriesOf (inputs : List Input) : List Entry := inputs.flatMap (·.entries)

def measuredOf (inputs : List Input) : List Measurement :=
  inputs.flatMap fun i => Category.measured (Entry.measurements i.entries)

def lines (s : Settings) (inputs : List Input) : List Event := (events s inputs).filter (·.isOfEntry)

/-- The measurements of other kinds in the inputs after the first. -/
def passedOver (inputs : List Input) : List Measurement :=
  (inputs.drop 1).flatMap fun i => Category.setAside (Entry.measurements i.entries)

/-- Every entry is measured or has its line, and is counted once among the measured, the rejected, and the rest. -/
structure Accounted (s : Settings) (inputs : List Input) : Prop where
  lines_perm : (lines s inputs).Perm ((entriesOf inputs).filterMap Entry.line?)
  count : (measuredOf inputs).length + ((ofInputs s inputs).diagnostics.filter (·.isRejection)).length +
    ((lines s inputs).filter (·.level = .debug)).length = (entriesOf inputs).length

theorem filter_isOfEntry_verdicts (s : Settings) (inputs : List Input) :
    ((verdicts s inputs).flatMap verdictEvents).filter (·.isOfEntry) = [] := by
  rw [verdicts_eq, List.filter_eq_nil_iff]
  intro event hevent
  obtain ⟨v, hv, he⟩ := List.mem_flatMap.1 hevent
  obtain ⟨name, -, rfl⟩ := List.mem_map.1 hv
  cases h : verdict s inputs name with
  | error d =>
    obtain ⟨fault, rfl⟩ := skipped_of_verdict h
    rw [h, verdictEvents, List.mem_singleton] at he
    simp [he, Event.isOfEntry]
  | ok c =>
    rw [h, verdictEvents, Sample.events] at he
    obtain ⟨x, -, rfl⟩ := List.mem_map.1 he
    simp [Event.isOfEntry]

theorem lines_eq (s : Settings) (inputs : List Input) :
    lines s inputs = inputs.flatMap Input.events ++ setAsideEvents inputs := by
  have hi : (inputs.flatMap Input.events).filter (·.isOfEntry) = inputs.flatMap Input.events := by
    rw [List.filter_eq_self]
    intro event hevent
    obtain ⟨i, -, he⟩ := List.mem_flatMap.1 hevent
    rw [Input.events, List.mem_append, List.mem_map, List.mem_map] at he
    obtain ⟨_, -, rfl⟩ | ⟨_, -, rfl⟩ := he <;> rfl
  have ha : (setAsideEvents inputs).filter (·.isOfEntry) = setAsideEvents inputs := by
    cases inputs with
    | nil => rfl
    | cons first rest => simp [setAsideEvents, List.filter_map, Function.comp_def, Event.isOfEntry]
  rw [lines, events]
  simp only [List.filter_append, hi, ha, filter_isOfEntry_verdicts]
  simp [List.filter_map, Function.comp_def, Event.isOfEntry, summary]

theorem lines_input_perm (i : Input) :
    (i.events ++ (Category.setAside (Entry.measurements i.entries)).map Event.setAside).Perm
      (i.entries.filterMap Entry.line?) :=
  (Entry.lines_perm i.entries).symm

theorem lines_append_passedOver_perm (s : Settings) (inputs : List Input) :
    (lines s inputs ++ (passedOver inputs).map Event.setAside).Perm ((entriesOf inputs).filterMap Entry.line?) := by
  have hall : (inputs.flatMap Input.events ++ inputs.flatMap fun i =>
      (Category.setAside (Entry.measurements i.entries)).map Event.setAside).Perm
        ((entriesOf inputs).filterMap Entry.line?) := by
    rw [entriesOf, List.filterMap_flatMap]
    exact (List.flatMap_append_perm _ _ _).trans (List.Perm.flatMap_left _ fun i _ => lines_input_perm i)
  have hset : setAsideEvents inputs ++ (passedOver inputs).map Event.setAside =
      inputs.flatMap fun i => (Category.setAside (Entry.measurements i.entries)).map Event.setAside := by
    cases inputs with
    | nil => rfl
    | cons first rest => simp [setAsideEvents, passedOver, List.map_flatMap]
  rw [lines_eq, List.append_assoc, hset]
  exact hall

theorem length_measuredOf_add (inputs : List Input) :
    (measuredOf inputs).length + ((entriesOf inputs).filterMap Entry.line?).length = (entriesOf inputs).length := by
  rw [← Entry.length_measured_add]
  have hm : Category.measured (Entry.measurements (entriesOf inputs)) = measuredOf inputs := by
    rw [measuredOf, entriesOf, Entry.measurements, List.filterMap_flatMap, Category.measured, List.filter_flatMap]
    rfl
  rw [hm]

theorem length_rejections_add_debug (s : Settings) (inputs : List Input) :
    ((ofInputs s inputs).diagnostics.filter (·.isRejection)).length +
      ((lines s inputs).filter (·.level = .debug)).length = (lines s inputs).length := by
  have hw : (lines s inputs).filter (·.level = .warn) =
      ((ofInputs s inputs).diagnostics.filter (·.isRejection)).map .diagnosed := by
    rw [lines, List.filter_comm, filter_warn_events, List.filter_map]
    congr 1
    refine List.filter_congr fun d _ => ?_
    cases d <;> rfl
  have hd : (lines s inputs).filter (·.level = .debug) = (lines s inputs).filter fun e => ¬ e.level = .warn := by
    refine List.filter_congr fun e he => ?_
    have ho : e.isOfEntry := (List.mem_filter.1 he).2
    cases e <;> simp_all [Event.isOfEntry, Event.level]
  rw [← List.length_map, ← hw, hd]
  simp only [← List.countP_eq_length_filter]
  simpa using (List.length_eq_countP_add_countP (l := lines s inputs) fun e => decide (e.level = .warn)).symm

theorem count_with_passedOver (s : Settings) (inputs : List Input) :
    (measuredOf inputs).length + ((ofInputs s inputs).diagnostics.filter (·.isRejection)).length +
      ((lines s inputs).filter (·.level = .debug)).length + (passedOver inputs).length =
        (entriesOf inputs).length := by
  have hl := (lines_append_passedOver_perm s inputs).length_eq
  have ht := length_measuredOf_add inputs
  have hd := length_rejections_add_debug s inputs
  rw [List.length_append, List.length_map] at hl
  omega

theorem accounted_iff (s : Settings) (inputs : List Input) :
    Accounted s inputs ↔ ∀ i ∈ inputs.drop 1, ∀ m ∈ Entry.measurements i.entries, m.kind.isMeasured := by
  have hp := lines_append_passedOver_perm s inputs
  have hc := count_with_passedOver s inputs
  have hnone : passedOver inputs = [] ↔
      ∀ i ∈ inputs.drop 1, ∀ m ∈ Entry.measurements i.entries, m.kind.isMeasured := by
    simp [passedOver, Category.setAside]
  rw [← hnone]
  constructor
  · intro h
    have hcount := h.count
    exact List.length_eq_zero_iff.1 (by omega)
  · intro h
    rw [h, List.map_nil, List.append_nil] at hp
    rw [h, List.length_nil] at hc
    exact ⟨hp, hc⟩

/-- Entries are accounted for but those of other kinds in the inputs after the first: they have no line, and are
missing from the count. -/
theorem entries_accounted_exactly (s : Settings) (inputs : List Input) :
    (∀ e : Entry, e.line? = none ↔ ∃ m, e.read = .measured m ∧ (m.kind = .encode ∨ m.kind = .decode)) ∧
    (lines s inputs ++ (passedOver inputs).map Event.setAside).Perm ((entriesOf inputs).filterMap Entry.line?) ∧
    (measuredOf inputs).length + ((ofInputs s inputs).diagnostics.filter (·.isRejection)).length +
      ((lines s inputs).filter (·.level = .debug)).length + (passedOver inputs).length =
        (entriesOf inputs).length ∧
    (Accounted s inputs ↔ ∀ i ∈ inputs.drop 1, ∀ m ∈ Entry.measurements i.entries, m.kind.isMeasured) :=
  ⟨fun _ => Entry.line?_eq_none_iff, lines_append_passedOver_perm s inputs, count_with_passedOver s inputs,
    accounted_iff s inputs⟩

/-- An entry of another kind in the second input leaves no trace. -/
theorem not_accounted_laterKind :
    let entry (name : String) : Entry := ⟨name, some 1.0, some "ns", none, none⟩
    let inputs : List Input := [⟨"one", [entry "a/Encode_X", entry "a/Decode_X"]⟩, ⟨"two", [entry "a/Compile_X"]⟩]
    ¬ Accounted ⟨.first, "X", .algorithms, false⟩ inputs := by
  intro entry inputs
  rw [accounted_iff]
  decide

end Report
end CodecBench
