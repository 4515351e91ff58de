import CodecBench.Proofs.Standing
/-!
Standings made from any sequence of samples and whole categories. A category comes down to its samples, each
measurement with the ratio opposite it as long as there is one, so that a sequence is known from the samples of its
additions (`Standings.ofAdditions_eq`). What is shown of one algorithm in one direction is a mean of its own
samples that count, whatever else is added (`Standings.tallied_exactly`).
-/

namespace CodecBench

/-- What is added to standings at a time: one sample, or a category with its ratios. -/
inductive Addition where
  | sample (x : Sample)
  | category (p : Pairing) (r : Ratios)

/-- Measurements with the ratios opposite them, up to the end of the shorter list. -/
def Sample.opposite (kind : Kind) : List Measurement → List Float → List Sample
  | m :: ms, r :: rs => ⟨kind, m.algorithm, m.cpuTime, r⟩ :: opposite kind ms rs
  | _, _ => []

def Addition.samples : Addition → List Sample
  | .sample x => [x]
  | .category p r => Sample.opposite .encode p.encode r.encode ++ Sample.opposite .decode p.decode r.decode

theorem Sample.opposite_eq (kind : Kind) (ms : List Measurement) (rs : List Float) :
    opposite kind ms rs = (ms.zip rs).map fun x => ⟨kind, x.1.algorithm, x.1.cpuTime, x.2⟩ := by
  induction ms generalizing rs with
  | nil => rfl
  | cons m ms ih =>
    cases rs with
    | nil => rfl
    | cons r rs => rw [opposite, ih, List.zip_cons_cons, List.map_cons]

theorem Pairing.samples_eq (p : Pairing) (r : Ratios) : p.samples r = (Addition.category p r).samples := by
  rw [samples, Addition.samples, Sample.opposite_eq, Sample.opposite_eq]

namespace Standings

def enter (st : Standings) : Addition → Standings
  | .sample x => st.add x
  | .category p r => st.addAll (p.samples r)

def ofAdditions (as : List Addition) : Standings := as.foldl enter empty

theorem enter_eq (st : Standings) (a : Addition) : st.enter a = st.addAll a.samples := by
  cases a with
  | sample x => rfl
  | category p r => rw [enter, Pairing.samples_eq]

theorem addAll_append (st : Standings) (xs ys : List Sample) :
    st.addAll (xs ++ ys) = (st.addAll xs).addAll ys :=
  List.foldl_append

theorem ofAdditions_eq (as : List Addition) : ofAdditions as = empty.addAll (as.flatMap (·.samples)) := by
  induction as using List.reverseRecOn with
  | nil => rfl
  | append_singleton as a ih =>
    have h : ofAdditions (as ++ [a]) = (ofAdditions as).enter a := List.foldl_append
    rw [h, enter_eq, ih, List.flatMap_append, List.flatMap_singleton, addAll_append]

def shown? (st : Standings) (kind : Kind) (a : String) : Option Mean :=
  (st.toList.find? (·.algorithm = a)).bind (·.mean? kind)

theorem map_algorithm_toList (st : Standings) : st.toList.map (·.algorithm) = st.totals.keys := by
  rw [toList_eq, List.map_map]
  exact List.map_id' _

theorem shown?_eq (st : Standings) (kind : Kind) (a : String) : st.shown? kind a = (st.sums kind a).mean? := by
  rw [shown?, toList_eq, List.find?_map]
  cases hf : st.totals.keys.find? ((fun s : Standing => decide (s.algorithm = a)) ∘ fun a =>
      ⟨a, (st.sums .encode a).mean?, (st.sums .decode a).mean?⟩) with
  | some b =>
    obtain rfl : b = a := by simpa using List.find?_some hf
    cases kind <;> rfl
  | none =>
    have ha : st.totals.get? a = none := by
      rw [Option.eq_none_iff_forall_ne_some]
      intro t ht
      exact List.find?_eq_none.1 hf a (Roster.mem_keys_iff.2 ⟨t, ht⟩) (by simp)
    rw [sums, ha]
    cases kind <;> rfl

theorem shown?_add_of_ne (st : Standings) (x : Sample) {kind : Kind} {a : String}
    (h : x.kind ≠ kind ∨ x.algorithm ≠ a) : (st.add x).shown? kind a = st.shown? kind a := by
  rw [shown?_eq, shown?_eq]
  by_cases hk : kind.isMeasured
  · rw [sums_add st x hk, if_neg]
    intro hx
    obtain ⟨ha, hxk, -⟩ := hx
    exact h.elim (fun hne => hne hxk) fun hne => hne ha
  · cases kind with
    | encode => exact absurd rfl hk
    | decode => exact absurd rfl hk
    | other tag => rfl

/-- Standings tell nothing but their samples: which algorithms came and when, and the means of what counts of each
in each direction. A sample of another kind is nothing to them. -/
theorem tallied_exactly (as : List Addition) :
    ((ofAdditions as).toList = (((as.flatMap (·.samples)).filter (·.kind.isMeasured)).map (·.algorithm)).eraseDups.map
      fun a => ⟨a, meanOf? (Sample.counted .encode ((as.flatMap (·.samples)).filter fun x => x.algorithm = a)),
        meanOf? (Sample.counted .decode ((as.flatMap (·.samples)).filter fun x => x.algorithm = a))⟩) ∧
    (∀ (st : Standings) tag a t r, st.enter (.sample ⟨.other tag, a, t, r⟩) = st) ∧
    (∀ (st : Standings) (x : Sample), (st.enter (.sample x)).toList.map (·.algorithm) =
      if x.kind.isMeasured ∧ x.algorithm ∉ st.toList.map (·.algorithm) then
        st.toList.map (·.algorithm) ++ [x.algorithm]
      else st.toList.map (·.algorithm)) ∧
    ∀ (st : Standings) (x : Sample) kind a, x.kind ≠ kind ∨ x.algorithm ≠ a →
      (st.enter (.sample x)).shown? kind a = st.shown? kind a := by
  refine ⟨?_, fun st tag a t r => rfl, fun st x => ?_, fun st x kind a h => shown?_add_of_ne st x h⟩
  · rw [ofAdditions_eq, toList_addAll]
  · simp only [map_algorithm_toList]
    exact keys_add st x

/-- A sample without a baseline, one of another kind, and a category whose lists differ in length. -/
def mixed : List Addition :=
  [.sample ⟨.decode, "Y", 3.0, -0.0⟩, .sample ⟨.other "Compile", "Z", 1.0, 1.0⟩,
    .category ⟨"a", none, "ns", ["X", "W"],
      [⟨"a", .encode, "X", 2.0, "ns", none⟩, ⟨"a", .encode, "W", 4.0, "ns", none⟩],
      [⟨"a", .decode, "X", 5.0, "ns", none⟩]⟩ ⟨[1.0], [1.0, 2.0]⟩,
    .sample ⟨.encode, "X", 6.0, 3.0⟩]

theorem tallied_exactly_mixed :
    ((ofAdditions mixed).toList.map fun s =>
        (s.algorithm, s.encode.map (·.samples), s.decode.map (·.samples))) =
      [("Y", none, none), ("X", some 2, some 1)] ∧
    ∀ t r, ((ofAdditions mixed).enter (.sample ⟨.encode, "X", t, r⟩)).shown? .decode "X" =
      (ofAdditions mixed).shown? .decode "X" := by
  obtain ⟨hlist, -, -, hframe⟩ := tallied_exactly mixed
  refine ⟨?_, fun t r => hframe _ _ .decode "X" (.inl Kind.noConfusion)⟩
  rw [hlist]
  decide +kernel

end Standings
end CodecBench
