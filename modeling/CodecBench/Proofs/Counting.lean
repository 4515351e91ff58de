import CodecBench.Proofs.Measurement
import CodecBench.Proofs.Overall
import CodecBench.Proofs.Underflow
/-!
Which measurements of a reported category count towards the standings. A category changes the sums of each
algorithm and direction by its samples of that algorithm and direction (`CategoryReport.sums_addAll_samples`). Those
with a ratio of zero are passed over, which are the ones whose baseline took no time, but also the ones whose own
time is nothing beside the baseline's (`Report.counted_exactly`).
-/

namespace CodecBench

namespace CategoryReport

def times (c : CategoryReport) (kind : Kind) (a : String) : List (Float × Float) :=
  ((c.side kind).filter fun x => x.1.algorithm = a).map fun x => (x.1.cpuTime, x.2)

/-- What the ratios of one direction are taken to, and where it stands. -/
def baseline? (c : CategoryReport) (b : Baseline) (kind : Kind) : Option (Nat × Measurement) :=
  (b.position? ((c.side kind).map (·.1))).bind fun p =>
    ((c.side kind).map (·.1))[p]?.map fun m => (p, m)

theorem algorithm_of_baseline? {c : CategoryReport} {a : String} {kind : Kind} {p : Nat} {base : Measurement}
    (h : c.baseline? (.named a) kind = some (p, base)) :
    ((c.side kind).map (·.1))[p]? = some base ∧ base.algorithm = a := by
  obtain ⟨p', hp, h⟩ := Option.bind_eq_some_iff.1 h
  obtain ⟨m, hm, h⟩ := Option.map_eq_some_iff.1 h
  cases h
  exact ⟨hm, Baseline.algorithm_of_position? hp hm⟩

theorem sums_addAll_samples (c : CategoryReport) {kind : Kind} (hk : kind.isMeasured) (st : Standings)
    (a : String) : (st.addAll c.samples).sums kind a = (st.sums kind a).addAll (counted [c] kind a) := by
  rw [st.sums_addAll c.samples hk, counted_samples c hk]

theorem adds_times_iff (c : CategoryReport) {kind : Kind} (hk : kind.isMeasured) (a : String) :
    (∀ st : Standings, (st.addAll c.samples).sums kind a = (st.sums kind a).addAll (c.times kind a)) ↔
      ∀ x ∈ c.side kind, x.1.algorithm = a → (x.2 == 0.0) = false := by
  have hc : counted [c] kind a = (((c.side kind).filter fun x => x.1.algorithm = a).filter fun x =>
      (x.2 == 0.0) = false).map fun x => (x.1.cpuTime, x.2) := by
    rw [counted, List.flatMap_singleton, List.filter_filter]
    simp [Bool.and_comm]
  constructor
  · intro h
    -- The numbers of samples tell whether one was passed over.
    have hl := congrArg Sums.count (h .empty)
    rw [sums_addAll_samples c hk, Sums.addAll_eq, Sums.addAll_eq, hc, times, List.length_map,
      List.length_map, Nat.add_left_cancel_iff, List.length_filter_eq_length_iff] at hl
    intro x hx ha
    simpa using hl x (List.mem_filter.2 ⟨hx, by simpa using ha⟩)
  · intro h st
    have hf : ((c.side kind).filter fun x => x.1.algorithm = a).filter (fun x => (x.2 == 0.0) = false) =
        (c.side kind).filter fun x => x.1.algorithm = a := by
      rw [List.filter_eq_self]
      intro x hx
      obtain ⟨hx, ha⟩ := List.mem_filter.1 hx
      simpa using h x hx (by simpa using ha)
    rw [sums_addAll_samples c hk, hc, hf, times]

end CategoryReport

namespace Report
open CategoryReport

theorem isDuration_of_mem_primary {inputs : List Input} {m : Measurement} (h : m ∈ primary inputs) :
    isDuration m.cpuTime := by
  cases inputs with
  | nil => simp [primary] at h
  | cons first rest => exact Entry.isDuration_of_mem h

section Reported
variable {s : Settings} {inputs : List Input} {c : CategoryReport}
  (hc : c ∈ (ofInputs s inputs).categories) {kind : Kind} (hk : kind.isMeasured)
include hc hk

theorem exists_baseline? :
    ∃ p base, c.baseline? s.baseline kind = some (p, base) ∧ isDuration base.cpuTime ∧
      ∀ j x, (c.side kind)[j]? = some x → isDuration x.1.cpuTime ∧
        x.2 = if j = p then 1.0 else relativeTo base.cpuTime x.1.cpuTime := by
  obtain ⟨p, base, hp, hb, hside⟩ := side_of_mem hc hk
  have hd : ∀ m ∈ sortedSide inputs kind c.pairing.category, isDuration m.cpuTime := fun m hm =>
    isDuration_of_mem_primary (mem_sortedSide_iff.1 hm).1
  refine ⟨p, base, by rw [baseline?, map_fst_side hc hk, hp, Option.bind_some, hb, Option.map_some],
    hd base (List.mem_of_getElem? hb), fun j x hx => ?_⟩
  rw [hside, List.getElem?_mapIdx, Option.map_eq_some_iff] at hx
  obtain ⟨m, hm, rfl⟩ := hx
  exact ⟨hd m (List.mem_of_getElem? hm), rfl⟩

theorem ratio_beq_zero_iff {p : Nat} {base : Measurement}
    (hb : c.baseline? s.baseline kind = some (p, base)) {j : Nat} {x : Measurement × Float}
    (hx : (c.side kind)[j]? = some x) :
    x.2 == 0.0 ↔ j ≠ p ∧ (base.cpuTime == 0.0 ∨ Negligible x.1.cpuTime base.cpuTime) := by
  obtain ⟨p', base', hb', hbase, hside⟩ := exists_baseline? hc hk
  obtain ⟨rfl, rfl⟩ : p' = p ∧ base' = base := by simpa [hb'] using hb
  obtain ⟨ht, hr⟩ := hside j x hx
  rw [hr]
  by_cases hj : j = p'
  · rw [if_pos hj]
    exact iff_of_false (by simp [one_beq_zero]) (fun h => h.1 hj)
  · rw [if_neg hj, relativeTo_beq_zero_iff hbase ht]
    exact ⟨fun h => ⟨hj, h⟩, fun h => h.2⟩

end Reported

theorem exists_side_beside_baseline {s : Settings} {inputs : List Input} {name a : String} {kind : Kind}
    {m : Measurement} (hr : name ∈ (ofInputs s inputs).reported) (hs : s.baseline = .named a)
    (hk : kind.isMeasured) (hm : m ∈ primary inputs) (hcat : m.category = name) (hmk : m.kind = kind)
    (ha : m.algorithm ≠ a) :
    ∃ c ∈ (ofInputs s inputs).categories, ∃ p base j x, c.baseline? (.named a) kind = some (p, base) ∧
      (base ∈ primary inputs ∧ base.kind = kind ∧ base.algorithm = a) ∧
      (c.side kind)[j]? = some x ∧ j ≠ p ∧ x.1 = m := by
  obtain ⟨c, hc, rfl⟩ := List.mem_map.1 hr
  obtain ⟨p, base, hb, -, -⟩ := exists_baseline? hc hk
  rw [hs] at hb
  obtain ⟨hp, hba⟩ := algorithm_of_baseline? hb
  have hms := map_fst_side hc hk
  obtain ⟨hbm, -, hbk⟩ := mem_sortedSide_iff.1 (hms ▸ List.mem_of_getElem? hp)
  have hmem : m ∈ (c.side kind).map (·.1) := hms ▸ mem_sortedSide_iff.2 ⟨hm, hcat, hmk⟩
  obtain ⟨x, hx, rfl⟩ := List.mem_map.1 hmem
  obtain ⟨j, hj⟩ := List.mem_iff_getElem?.1 hx
  refine ⟨c, hc, p, base, j, x, hb, ⟨hbm, hbk, hba⟩, hj, ?_, rfl⟩
  rintro rfl
  rw [List.getElem?_map, hj, Option.map_some, Option.some.injEq] at hp
  exact ha (hp ▸ hba)

/-- In every reported category what is related to a baseline that took time is counted, with its own time and
ratio. -/
def CountedWithBaseline (s : Settings) (inputs : List Input) : Prop :=
  ∀ c ∈ (ofInputs s inputs).categories, ∀ kind, kind.isMeasured → ∀ p base,
    c.baseline? s.baseline kind = some (p, base) → base.cpuTime != 0.0 → ∀ (st : Standings) (a : String),
      (st.addAll c.samples).sums kind a = (st.sums kind a).addAll (c.times kind a)

theorem countedWithBaseline_iff {s : Settings} {inputs : List Input} :
    CountedWithBaseline s inputs ↔
      ∀ c ∈ (ofInputs s inputs).categories, ∀ kind, kind.isMeasured → ∀ p base,
        c.baseline? s.baseline kind = some (p, base) → base.cpuTime != 0.0 →
          ∀ j x, (c.side kind)[j]? = some x → j ≠ p → ¬ Negligible x.1.cpuTime base.cpuTime := by
  constructor
  · intro h c hc kind hk p base hb hb0 j x hx hj hn
    have hz := (ratio_beq_zero_iff hc hk hb hx).2 ⟨hj, .inr hn⟩
    have ha := (c.adds_times_iff hk x.1.algorithm).1 (fun st => h c hc kind hk p base hb hb0 st _) x
      (List.mem_of_getElem? hx) rfl
    rw [hz] at ha
    cases ha
  · intro h c hc kind hk p base hb hb0 st a
    apply (c.adds_times_iff hk a).2
    intro x hx _
    obtain ⟨j, hj⟩ := List.mem_iff_getElem?.1 hx
    rw [← Bool.not_eq_true, ratio_beq_zero_iff hc hk hb hj]
    intro hz
    obtain ⟨hjp, hb1 | hn⟩ := hz
    · simp [bne, hb1] at hb0
    · exact h c hc kind hk p base hb hb0 j x hj hjp hn

/-- A category adds to the sums of each algorithm the measurements with a ratio other than zero: the baseline,
and those whose baseline took time and beside which they are not nothing. All of those with such a baseline are
counted if none of them is nothing beside it. -/
theorem counted_exactly (s : Settings) (inputs : List Input) :
    (∀ c ∈ (ofInputs s inputs).categories, ∀ kind, kind.isMeasured →
      (∀ (st : Standings) (a : String),
        (st.addAll c.samples).sums kind a = (st.sums kind a).addAll (counted [c] kind a)) ∧
      ∃ p base, c.baseline? s.baseline kind = some (p, base) ∧ ∀ j x, (c.side kind)[j]? = some x →
        ((x.2 == 0.0) = false ↔
          j = p ∨ (base.cpuTime != 0.0) ∧ ¬ Negligible x.1.cpuTime base.cpuTime)) ∧
    (CountedWithBaseline s inputs ↔
      ∀ c ∈ (ofInputs s inputs).categories, ∀ kind, kind.isMeasured → ∀ p base,
        c.baseline? s.baseline kind = some (p, base) → base.cpuTime != 0.0 →
          ∀ j x, (c.side kind)[j]? = some x → j ≠ p → ¬ Negligible x.1.cpuTime base.cpuTime) := by
  refine ⟨fun c hc kind hk => ⟨fun st a => c.sums_addAll_samples hk st a, ?_⟩, countedWithBaseline_iff⟩
  obtain ⟨p, base, hb, -, -⟩ := exists_baseline? hc hk
  refine ⟨p, base, hb, fun j x hx => ?_⟩
  rw [← Bool.not_eq_true, ratio_beq_zero_iff hc hk hb hx, bne, Bool.not_eq_true']
  by_cases hj : j = p
  · simp [hj]
  · simp [hj]

def zeroTime : List Input :=
  [⟨"run", [⟨"a/Encode_X", some 4.0, some "ns", none, none⟩, ⟨"a/Encode_Y", some 0.0, some "ns", none, none⟩,
    ⟨"a/Decode_X", some 1.0, some "ns", none, none⟩, ⟨"a/Decode_Y", some 1.0, some "ns", none, none⟩]⟩]

theorem exists_side_zeroTime :
    ∃ c ∈ (ofInputs ⟨.named "X", "X", .algorithms, false⟩ zeroTime).categories, ∃ p base j x,
      c.baseline? (.named "X") .encode = some (p, base) ∧ base.cpuTime != 0.0 ∧
      (c.side .encode)[j]? = some x ∧ j ≠ p ∧ x.1.algorithm = "Y" ∧ Negligible x.1.cpuTime base.cpuTime := by
  have hr : "a" ∈ (ofInputs ⟨.named "X", "X", .algorithms, false⟩ zeroTime).reported :=
    mem_reported_iff.2 (by decide +kernel)
  obtain ⟨m, hm, hcat, hmk, hY, ht⟩ : ∃ m ∈ primary zeroTime, m.category = "a" ∧ m.kind = .encode ∧
      m.algorithm = "Y" ∧ m.cpuTime = 0.0 := by
    decide +kernel
  have hall : ∀ m ∈ primary zeroTime, m.kind = .encode → m.algorithm = "X" → m.cpuTime = 4.0 := by
    decide +kernel
  obtain ⟨c, hc, p, base, j, x, hb, ⟨hbm, hbk, hX⟩, hx, hj, rfl⟩ :=
    exists_side_beside_baseline hr (a := "X") rfl rfl hm hcat hmk (by rw [hY]; decide)
  have hfour := hall base hbm hbk hX
  refine ⟨c, hc, p, base, j, x, hb, by rw [hfour]; rfl, hx, hj, hY, ?_⟩
  rw [hfour, ht]
  decide +kernel

theorem counted_exactly_zeroTime :
    ∃ c ∈ (ofInputs ⟨.named "X", "X", .algorithms, false⟩ zeroTime).categories,
      (∃ x ∈ c.side .encode, x.1.algorithm = "Y" ∧ x.2 == 0.0) ∧ ∀ st : Standings,
        (st.addAll c.samples).sums .encode "Y" = (st.sums .encode "Y").addAll (counted [c] .encode "Y") := by
  obtain ⟨c, hc, p, base, j, x, hb, -, hx, hj, hY, hn⟩ := exists_side_zeroTime
  obtain ⟨hsums, p', base', hb', hiff⟩ := (counted_exactly _ zeroTime).1 c hc .encode rfl
  cases hb.symm.trans hb'
  refine ⟨c, hc, ⟨x, List.mem_of_getElem? hx, hY, ?_⟩, fun st => hsums st "Y"⟩
  rw [← Bool.not_eq_false, hiff j x hx]
  exact fun h => h.elim hj fun h => h.2 hn

/-- A genuine time of zero is left out like one without a baseline. -/
theorem not_countedWithBaseline_zeroTime :
    ¬ CountedWithBaseline ⟨.named "X", "X", .algorithms, false⟩ zeroTime := by
  rw [countedWithBaseline_iff]
  intro h
  obtain ⟨c, hc, p, base, j, x, hb, hbase, hx, hj, -, hn⟩ := exists_side_zeroTime
  exact h c hc .encode rfl p base hb hbase j x hx hj hn

end Report
end CodecBench
