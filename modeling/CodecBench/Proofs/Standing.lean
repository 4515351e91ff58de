import CodecBench.Proofs.Category
import CodecBench.Standing
/-!
Standings entered sample by sample. A sample changes the sums of its own algorithm and direction and no others
(`Standings.sums_add`), and only a new algorithm is added to those that stand (`Standings.keys_add`). So every
algorithm stands where it first came, with the mean of its own samples in each direction that count
(`Standings.toList_addAll`).
-/

namespace CodecBench

/-- The numbers added up from the left, beginning with zero. -/
def total (xs : List Float) : Float := xs.foldl (· + ·) 0.0

def meanOf? (xs : List (Float × Float)) : Option Mean :=
  if xs.isEmpty then none
  else some ⟨total (xs.map (·.1)) / .ofNat xs.length, total (xs.map (·.2)) / .ofNat xs.length, xs.length⟩

theorem map_samples_meanOf? (xs : List (Float × Float)) :
    (meanOf? xs).map (·.samples) = if xs.length = 0 then none else some xs.length := by
  cases xs <;> simp [meanOf?]

namespace Sums

def addAll (t : Sums) (xs : List (Float × Float)) : Sums := xs.foldl (fun t x => t.add x.1 x.2) t

theorem addAll_eq (t : Sums) (xs : List (Float × Float)) :
    t.addAll xs = ⟨(xs.map (·.1)).foldl (· + ·) t.cpuTime, (xs.map (·.2)).foldl (· + ·) t.ratio,
      t.count + xs.length⟩ := by
  induction xs generalizing t with
  | nil => rfl
  | cons x xs ih =>
    have h := ih (t.add x.1 x.2)
    rw [addAll] at h
    rw [addAll, List.foldl_cons, h]
    simp [add, Nat.add_assoc, Nat.add_comm 1]

theorem mean?_addAll (xs : List (Float × Float)) : (zero.addAll xs).mean? = meanOf? xs := by
  rw [addAll_eq]
  cases xs with
  | nil => rfl
  | cons x xs => simp [mean?, meanOf?, zero, total]

end Sums

def Standing.mean? (s : Standing) : Kind → Option Mean
  | .encode => s.encode
  | .decode => s.decode
  | .other _ => none

def Sample.counted (kind : Kind) (xs : List Sample) : List (Float × Float) :=
  (xs.filter fun x => x.kind = kind ∧ (x.ratio == 0.0) = false).map fun x => (x.cpuTime, x.ratio)

def Totals.sums (t : Totals) : Kind → Sums
  | .encode => t.encode
  | .decode => t.decode
  | .other _ => .zero

theorem Totals.sums_add (t : Totals) (x : Sample) {kind : Kind} (hk : kind.isMeasured) :
    (t.add x).sums kind =
      if x.kind = kind ∧ (x.ratio == 0.0) = false then (t.sums kind).add x.cpuTime x.ratio
      else t.sums kind := by
  unfold add
  by_cases hr : x.ratio == 0.0
  · simp [hr]
  · obtain rfl | rfl := Kind.isMeasured_iff.1 hk
    · cases hx : x.kind <;> simp [hr, sums]
    · cases hx : x.kind <;> simp [hr, sums]

namespace Standings

/-- The sums of an algorithm in one direction, zero for one that was not entered. -/
def sums (st : Standings) (kind : Kind) (a : String) : Sums := ((st.totals.get? a).getD .zero).sums kind

theorem sums_add (st : Standings) (x : Sample) {kind : Kind} (hk : kind.isMeasured) (a : String) :
    (st.add x).sums kind a =
      if x.algorithm = a ∧ x.kind = kind ∧ (x.ratio == 0.0) = false then
        (st.sums kind a).add x.cpuTime x.ratio
      else st.sums kind a := by
  by_cases hx : x.kind.isMeasured
  · rw [add, if_pos hx, sums, Roster.get?_update]
    by_cases ha : a = x.algorithm
    · subst ha
      rw [if_pos rfl, Option.getD_some, Totals.sums_add _ _ hk]
      simp [sums]
    · have ha' : ¬ x.algorithm = a := fun e => ha e.symm
      simp [ha, ha', sums]
  · have hne : x.kind ≠ kind := fun e => hx (e ▸ hk)
    simp [add, hx, hne]

theorem sums_addAll (st : Standings) (xs : List Sample) {kind : Kind} (hk : kind.isMeasured) (a : String) :
    (st.addAll xs).sums kind a =
      (st.sums kind a).addAll (Sample.counted kind (xs.filter fun x => x.algorithm = a)) := by
  induction xs generalizing st with
  | nil => rfl
  | cons x xs ih =>
    have h := ih (st.add x)
    rw [addAll] at h
    rw [addAll, List.foldl_cons, h, sums_add st x hk]
    by_cases ha : x.algorithm = a
    · by_cases hc : x.kind = kind ∧ (x.ratio == 0.0) = false
      · simp [Sample.counted, Sums.addAll, ha, hc]
      · simp [Sample.counted, ha, hc]
    · simp [ha]

/-- A sample that does not count enters its algorithm all the same, if it is of a direction. -/
theorem keys_add (st : Standings) (x : Sample) :
    (st.add x).totals.keys =
      if x.kind.isMeasured ∧ x.algorithm ∉ st.totals.keys then st.totals.keys ++ [x.algorithm]
      else st.totals.keys := by
  by_cases hx : x.kind.isMeasured
  · rw [add, if_pos hx, Roster.keys_update]
    by_cases ha : x.algorithm ∈ st.totals.keys
    · simp [ha]
    · simp [ha, hx]
  · simp [add, hx]

theorem addAll_concat (st : Standings) (xs : List Sample) (x : Sample) :
    st.addAll (xs ++ [x]) = (st.addAll xs).add x := by
  rw [addAll, List.foldl_append]
  rfl

theorem keys_addAll (xs : List Sample) :
    (empty.addAll xs).totals.keys = ((xs.filter (·.kind.isMeasured)).map (·.algorithm)).eraseDups := by
  induction xs using List.reverseRecOn with
  | nil => rfl
  | append_singleton xs x ih =>
    rw [addAll_concat, keys_add, ih, List.filter_append]
    cases hx : x.kind.isMeasured with
    | false => simp [hx]
    | true =>
      have hf : [x].filter (·.kind.isMeasured) = [x] := by simp [hx]
      rw [hf, List.map_append, List.map_singleton, eraseDups_concat]
      by_cases ha : x.algorithm ∈ (xs.filter (·.kind.isMeasured)).map (·.algorithm)
      · simp only [List.mem_eraseDups, ha, not_true_eq_false, and_false, if_false, if_true]
      · simp only [List.mem_eraseDups, ha, not_false_eq_true, and_self, if_false, if_true]

theorem toList_eq (st : Standings) :
    st.toList = st.totals.keys.map fun a => ⟨a, (st.sums .encode a).mean?, (st.sums .decode a).mean?⟩ := by
  have hk : ∀ a ∈ st.totals.keys, st.totals.get? a = some ((st.totals.get? a).getD .zero) := by
    intro a ha
    obtain ⟨t, ht⟩ := Roster.mem_keys_iff.1 ha
    rw [ht, Option.getD_some]
  rw [toList, Roster.entries_eq_map hk, List.map_map]
  rfl

theorem toList_addAll (xs : List Sample) :
    (empty.addAll xs).toList =
      ((xs.filter (·.kind.isMeasured)).map (·.algorithm)).eraseDups.map fun a =>
        ⟨a, meanOf? (Sample.counted .encode (xs.filter fun x => x.algorithm = a)),
          meanOf? (Sample.counted .decode (xs.filter fun x => x.algorithm = a))⟩ := by
  have hsums : ∀ {kind : Kind}, kind.isMeasured → ∀ a, ((empty.addAll xs).sums kind a).mean? =
      meanOf? (Sample.counted kind (xs.filter fun x => x.algorithm = a)) := by
    intro kind hk a
    have hzero : empty.sums kind a = .zero := by
      obtain rfl | rfl := Kind.isMeasured_iff.1 hk <;> rfl
    rw [sums_addAll empty xs hk, hzero, Sums.mean?_addAll]
  rw [toList_eq, keys_addAll]
  simp only [hsums (rfl : Kind.encode.isMeasured), hsums (rfl : Kind.decode.isMeasured)]

end Standings
end CodecBench
