import CodecBench.Chart
import CodecBench.Proofs.Grid
/-!
The order of variants. A grid lists its variants subject by subject, so that a variant entered early on a
late subject comes behind variants that were entered after it on an earlier one. When the variants do stand
in the order in which they first came is said by `Grid.Chronological`.
-/

namespace CodecBench
namespace Grid

def entered (xs : List Timing) (subject : String) : List String :=
  (xs.filter fun x => x.subject = subject).map (·.variant)

/-- Of two variants the one that came first also came first on the first subject that has either. -/
def Chronological (xs : List Timing) : Prop :=
  ∀ v w, (xs.map (·.variant)).idxOf v < (xs.map (·.variant)).idxOf w →
    ∃ s, (xs.map (·.subject)).eraseDups.find? (fun s => v ∈ entered xs s ∨ w ∈ entered xs s) = some s ∧
      (entered xs s).idxOf v < (entered xs s).idxOf w

def rowOf (xs : List Timing) : Roster String Float :=
  Roster.enterAll (·.variant) (fun x _ => x.cpuTime) xs

theorem keys_rowOf (xs : List Timing) : (rowOf xs).keys = (xs.map (·.variant)).eraseDups :=
  Roster.keys_enterAll _ _ _

theorem rows_ofTimings (xs : List Timing) :
    (ofTimings xs).rows = Roster.enterAll (·.subject)
      (fun x row? => (row?.getD ∅).insert x.variant x.cpuTime) xs := by
  induction xs using List.reverseRecOn with
  | nil => rfl
  | append_singleton xs x ih =>
    rw [ofTimings_concat, Roster.enterAll_concat, ← ih]
    rfl

theorem get?_rows_ofTimings (xs : List Timing) (s : String) :
    (ofTimings xs).rows.get? s =
      if s ∈ xs.map (·.subject) then some (rowOf (xs.filter fun x => x.subject = s)) else none := by
  rw [rows_ofTimings]
  exact Roster.get?_enterAll_getD (·.subject)
    (fun (x : Timing) (row : Roster String Float) => row.insert x.variant x.cpuTime) ∅ xs s

theorem values_rows_ofTimings (xs : List Timing) :
    (ofTimings xs).rows.values =
      (xs.map (·.subject)).eraseDups.map fun s => rowOf (xs.filter fun x => x.subject = s) := by
  have hk : (ofTimings xs).rows.keys = (xs.map (·.subject)).eraseDups := subjects_ofTimings xs
  rw [← hk, Roster.values,
    Roster.entries_eq_map (g := fun s => rowOf (xs.filter fun x => x.subject = s)), List.map_map]
  · rfl
  · intro s hs
    rw [hk, List.mem_eraseDups] at hs
    rw [get?_rows_ofTimings, if_pos hs]

theorem variants_ofTimings (xs : List Timing) :
    (ofTimings xs).variants =
      ((xs.map (·.subject)).eraseDups.flatMap (entered xs)).eraseDups := by
  rw [variants, values_rows_ofTimings, List.flatMap_map]
  refine eraseDups_flatMap_congr fun s _ => ?_
  rw [keys_rowOf]
  exact eraseDups_eq_self (nodup_eraseDups _)

theorem mem_flatMap_entered {xs : List Timing} {v : String} :
    v ∈ (xs.map (·.subject)).eraseDups.flatMap (entered xs) ↔ v ∈ xs.map (·.variant) := by
  rw [← mem_variants_ofTimings, variants_ofTimings, List.mem_eraseDups]

theorem variants_eq_iff {xs : List Timing} :
    (ofTimings xs).variants = (xs.map (·.variant)).eraseDups ↔ Chronological xs := by
  rw [variants_ofTimings, eraseDups_eq_iff fun v => mem_flatMap_entered]
  simp only [idxOf_flatMap_lt_iff, Chronological]

theorem variants_eq_of_complete {x : Timing} {xs : List Timing}
    (h : ∀ v ∈ (ofTimings (x :: xs)).variants, v ∈ entered (x :: xs) x.subject) :
    (ofTimings (x :: xs)).variants = (entered (x :: xs) x.subject).eraseDups := by
  rw [variants_ofTimings, List.map_cons, List.eraseDups_cons, List.flatMap_cons] at h ⊢
  rw [eraseDups_append_eq, List.append_right_eq_self, List.filter_eq_nil_iff]
  intro v hv
  rw [List.mem_eraseDups] at hv
  have hm := h v (List.mem_eraseDups.2 (List.mem_append_right _ hv))
  simpa using hm

theorem mem_entered_iff {xs : List Timing} {s v : String} :
    v ∈ entered xs s ↔ ∃ t, (ofTimings xs).get? s v = some t := by
  rw [get?_ofTimings, exists_lastTime?_iff, entered, List.mem_map]
  simp only [List.mem_filter, decide_eq_true_eq, and_assoc]

theorem series_of_compare {xs : List Timing} {kind : Kind} {b : String} {c : Comparison}
    (h : (ofTimings xs).compare kind b = .ok c) :
    ∃ s, c.subjects.head? = some s ∧ c.series.map (·.variant) = (entered xs s).eraseDups := by
  obtain ⟨hb, hall⟩ := exists_compare_iff.1 ⟨c, h⟩
  obtain ⟨-, -, -, hs, hv, -⟩ := compare_eq_ok_iff.1 h
  cases xs with
  | nil => simp [mem_variants_ofTimings] at hb
  | cons x xs =>
    rw [hs, hv, subjects_ofTimings, List.map_cons, List.eraseDups_cons]
    refine ⟨x.subject, rfl, variants_eq_of_complete fun v hvm => ?_⟩
    have hx : x.subject ∈ (ofTimings (x :: xs)).subjects := by simp [subjects_ofTimings]
    exact mem_entered_iff.2 (hall x.subject hx v hvm)

/-- Every variant is listed once. The variants, and with them the series of a comparison and of its chart,
stand in the order in which they first came exactly for chronological times; the series always stand in
the order of the first subject. -/
theorem variants_in_order (xs : List Timing) :
    (ofTimings xs).variants.Nodup ∧
    (∀ v, v ∈ (ofTimings xs).variants ↔ v ∈ xs.map (·.variant)) ∧
    ((ofTimings xs).variants = (xs.map (·.variant)).eraseDups ↔ Chronological xs) ∧
    ∀ kind baseline c, (ofTimings xs).compare kind baseline = .ok c →
      (c.series.map (·.variant) = (xs.map (·.variant)).eraseDups ↔ Chronological xs) ∧
      (∃ s, c.subjects.head? = some s ∧ c.series.map (·.variant) = (entered xs s).eraseDups) ∧
      ∃ groups, Chart.ofComparison c = .comparison groups ∧ groups.series = c.series := by
  refine ⟨nodup_variants _, fun v => mem_variants_ofTimings, variants_eq_iff, fun kind b c h => ?_⟩
  have hv : c.series.map (·.variant) = (ofTimings xs).variants := (compare_eq_ok_iff.1 h).2.2.2.2.1
  refine ⟨?_, series_of_compare h, _, rfl, rfl⟩
  rw [hv]
  exact variants_eq_iff

def interleaved : List Timing :=
  [⟨"A", "X", 1.0⟩, ⟨"B", "Y", 1.0⟩, ⟨"A", "Z", 1.0⟩, ⟨"A", "Y", 1.0⟩, ⟨"B", "X", 1.0⟩, ⟨"B", "Z", 1.0⟩]

theorem variants_interleaved :
    (ofTimings interleaved).variants ≠ (interleaved.map (·.variant)).eraseDups := by
  decide

/-- The table is complete, so that it is compared, in the order of the first subject. -/
theorem series_interleaved :
    ∃ c, (ofTimings interleaved).compare .encode "X" = .ok c ∧
      c.series.map (·.variant) = ["X", "Z", "Y"] := by
  have hc : "X" ∈ (ofTimings interleaved).variants ∧ ∀ s ∈ (ofTimings interleaved).subjects,
      ∀ v ∈ (ofTimings interleaved).variants, ∃ t, (ofTimings interleaved).get? s v = some t := by
    simp only [← Option.isSome_iff_exists]
    decide
  have he : ∃ c, (ofTimings interleaved).compare .encode "X" = .ok c := exists_compare_iff.2 hc
  obtain ⟨c, h⟩ := he
  obtain ⟨-, ⟨s, hs, hv⟩, -⟩ := (variants_in_order interleaved).2.2.2 .encode "X" c h
  have hA : s = "A" := by
    rw [(compare_eq_ok_iff.1 h).2.2.2.1] at hs
    exact Option.some.inj (hs.symm.trans (by decide))
  subst hA
  exact ⟨c, h, hv.trans (by decide)⟩

end Grid
end CodecBench
