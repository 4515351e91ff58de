import CodecBench.Grid
import CodecBench.Proofs.Roster
/-!
Grids filled from a list of times: a cell holds its last time, the subjects are the distinct ones in
first-seen order, the variants are those that were entered. Comparing a grid with a baseline succeeds
exactly if the baseline is among the variants and every cell has a time (`Grid.exists_compare_iff`); it
relates each cell to the baseline's cell of its subject (`Grid.compare_eq_ok_iff`), or tells the first cell where
that cannot be done (`Grid.compare_eq_error_iff`).
-/

namespace CodecBench
namespace Grid

structure Timing where
  subject : String
  variant : String
  cpuTime : Float

def enter (g : Grid) (x : Timing) : Grid := g.insert x.subject x.variant x.cpuTime

def ofTimings (xs : List Timing) : Grid := xs.foldl enter empty

def lastTime? (xs : List Timing) (subject variant : String) : Option Float :=
  (xs.filter fun x => x.subject = subject ∧ x.variant = variant).getLast?.map (·.cpuTime)

theorem ofTimings_concat (xs : List Timing) (x : Timing) :
    ofTimings (xs ++ [x]) = (ofTimings xs).insert x.subject x.variant x.cpuTime := by
  simp [ofTimings, enter]

theorem get?_insert (g : Grid) (s v s' v' : String) (t : Float) :
    (g.insert s v t).get? s' v' = if s' = s ∧ v' = v then some t else g.get? s' v' := by
  unfold insert get?
  rw [Roster.get?_update]
  by_cases hs : s' = s
  · subst hs
    rw [if_pos rfl, Option.bind_some, Roster.insert, Roster.get?_update]
    by_cases hv : v' = v
    · simp [hv]
    · cases g.rows.get? s' with
      | none => simp [hv]
      | some row => simp [hv]
  · simp [hs]

theorem get?_ofTimings (xs : List Timing) (s v : String) :
    (ofTimings xs).get? s v = lastTime? xs s v := by
  induction xs using List.reverseRecOn with
  | nil => rfl
  | append_singleton xs x ih =>
    rw [ofTimings_concat, get?_insert, ih, lastTime?, lastTime?, List.filter_append]
    by_cases h : x.subject = s ∧ x.variant = v
    · obtain ⟨rfl, rfl⟩ := h
      simp
    · have h' : ¬ (s = x.subject ∧ v = x.variant) := fun e => h ⟨e.1.symm, e.2.symm⟩
      simp [h, h']

theorem subjects_insert (g : Grid) (s v : String) (t : Float) :
    (g.insert s v t).subjects = if s ∈ g.subjects then g.subjects else g.subjects ++ [s] :=
  Roster.keys_update _ _ _

theorem subjects_ofTimings (xs : List Timing) :
    (ofTimings xs).subjects = (xs.map (·.subject)).eraseDups := by
  induction xs using List.reverseRecOn with
  | nil => rfl
  | append_singleton xs x ih =>
    rw [ofTimings_concat, subjects_insert, ih, List.map_append, List.map_singleton, eraseDups_concat]
    simp only [List.mem_eraseDups]

theorem mem_variants_iff {g : Grid} {v : String} :
    v ∈ g.variants ↔ ∃ s t, g.get? s v = some t := by
  simp only [variants, List.mem_eraseDups, List.mem_flatMap, Roster.values, List.mem_map, Prod.exists,
    exists_eq_right, Roster.mem_entries_iff, Roster.mem_keys_iff, get?, Option.bind_eq_some_iff]
  constructor
  · intro h
    obtain ⟨row, ⟨s, hs⟩, t, ht⟩ := h
    exact ⟨s, t, row, hs, ht⟩
  · intro h
    obtain ⟨s, t, row, hs, ht⟩ := h
    exact ⟨row, ⟨s, hs⟩, t, ht⟩

theorem nodup_variants (g : Grid) : g.variants.Nodup := nodup_eraseDups _

theorem hasVariant_iff {g : Grid} {v : String} : g.hasVariant v ↔ v ∈ g.variants := by
  simp only [hasVariant, variants, List.any_eq_true, List.mem_eraseDups, List.mem_flatMap,
    Roster.contains, Option.isSome_iff_exists, Roster.mem_keys_iff]

theorem exists_lastTime?_iff {xs : List Timing} {s v : String} :
    (∃ t, lastTime? xs s v = some t) ↔ ∃ x ∈ xs, x.subject = s ∧ x.variant = v := by
  rw [← Option.isSome_iff_exists, lastTime?, Option.isSome_map, List.getLast?_isSome,
    ne_eq, List.filter_eq_nil_iff]
  simp

theorem mem_variants_ofTimings {xs : List Timing} {v : String} :
    v ∈ (ofTimings xs).variants ↔ v ∈ xs.map (·.variant) := by
  simp only [mem_variants_iff, get?_ofTimings, exists_lastTime?_iff, List.mem_map]
  constructor
  · intro h
    obtain ⟨s, x, hx, -, hv⟩ := h
    exact ⟨x, hx, hv⟩
  · intro h
    obtain ⟨x, hx, hv⟩ := h
    exact ⟨x.subject, x, hx, rfl, hv⟩

def ratio (g : Grid) (kind : Kind) (baseline variant subject : String) : Except ComparisonFault Float :=
  match g.get? subject baseline with
  | none => .error (.incomplete kind baseline subject)
  | some base =>
    match g.get? subject variant with
    | none => .error (.incomplete kind variant subject)
    | some t => .ok (relativeTo base t)

theorem cell_eq_ratio {g : Grid} {s : String} {row : Roster String Float}
    (h : (s, row) ∈ g.rows.entries) (kind : Kind) (b v : String) :
    cell kind b v s row = g.ratio kind b v s := by
  have hrow : g.rows.get? s = some row := Roster.mem_entries_iff.1 h
  have hg : ∀ w, g.get? s w = row.get? w := fun w => by rw [get?, hrow, Option.bind_some]
  cases hb : row.get? b with
  | none => simp only [cell, ratio, hg, hb]
  | some base => cases hv : row.get? v <;> simp only [cell, ratio, hg, hb, hv]

theorem cells_eq_mapM (g : Grid) (kind : Kind) (b v : String) :
    cells kind b v g.rows.entries = g.subjects.mapM (g.ratio kind b v) := by
  -- A row can be looked up by its subject as long as it is a row of the grid, so also in a tail.
  have h : ∀ l : List (String × Roster String Float), (∀ e ∈ l, e ∈ g.rows.entries) →
      cells kind b v l = (l.map Prod.fst).mapM (g.ratio kind b v) := by
    intro l
    induction l with
    | nil => intro _; rfl
    | cons e l ih =>
      intro hl
      obtain ⟨s, row⟩ := e
      rw [cells, cell_eq_ratio (hl (s, row) (by simp)), ih fun e he => hl e (by simp [he]),
        List.map_cons, List.mapM_cons]
      cases g.ratio kind b v s with
      | error fault => rfl
      | ok x => cases (l.map Prod.fst).mapM (g.ratio kind b v) <;> rfl
  exact h _ fun _ he => he

theorem seriesOf_eq_mapM (g : Grid) (kind : Kind) (b : String) (vs : List String) :
    seriesOf kind b g.rows.entries vs =
      vs.mapM fun v => (g.subjects.mapM (g.ratio kind b v)).map (Series.mk v) := by
  induction vs with
  | nil => rfl
  | cons v vs ih =>
    rw [seriesOf, cells_eq_mapM, ih, List.mapM_cons]
    cases g.subjects.mapM (g.ratio kind b v) with
    | error fault => rfl
    | ok xs =>
      cases vs.mapM fun v => (g.subjects.mapM (g.ratio kind b v)).map (Series.mk v) <;> rfl

theorem compare_eq (g : Grid) (kind : Kind) (b : String) :
    g.compare kind b =
      if b ∈ g.variants then
        (g.variants.mapM fun v => (g.subjects.mapM (g.ratio kind b v)).map (Series.mk v)).map
          (Comparison.mk kind b g.subjects)
      else .error (.missingBaseline kind b) := by
  unfold compare
  simp only [hasVariant_iff, seriesOf_eq_mapM]
  split
  · cases g.variants.mapM fun v => (g.subjects.mapM (g.ratio kind b v)).map (Series.mk v) <;> rfl
  · rfl

theorem ratio_eq_ok_iff {g : Grid} {kind : Kind} {b v s : String} {x : Float} :
    g.ratio kind b v s = .ok x ↔
      ∃ base t, g.get? s b = some base ∧ g.get? s v = some t ∧ x = relativeTo base t := by
  unfold ratio
  cases g.get? s b with
  | none => simp
  | some base =>
    cases g.get? s v with
    | none => simp
    | some t => simp [eq_comm]

/-- On a subject without a time of the baseline or of a variant the one is not related to the other. -/
def Lacks (g : Grid) (baseline variant subject : String) : Prop :=
  g.get? subject baseline = none ∨ g.get? subject variant = none

theorem exists_ratio_error_iff {g : Grid} {kind : Kind} {b v s : String} :
    (∃ fault, g.ratio kind b v s = .error fault) ↔ g.Lacks b v s := by
  unfold ratio Lacks
  cases g.get? s b with
  | none => simp
  | some base => cases g.get? s v <;> simp

theorem ratio_eq_error_iff {g : Grid} {kind : Kind} {b v s : String} {fault : ComparisonFault} :
    g.ratio kind b v s = .error fault ↔ g.Lacks b v s ∧
      fault = .incomplete kind (if g.get? s b = none then b else v) s := by
  unfold ratio Lacks
  cases g.get? s b with
  | none => simp [eq_comm]
  | some base => cases g.get? s v <;> simp [eq_comm]

theorem exists_ratio_iff {g : Grid} {kind : Kind} {b v s : String} :
    (∃ x, g.ratio kind b v s = .ok x) ↔
      (∃ base, g.get? s b = some base) ∧ ∃ t, g.get? s v = some t := by
  simp only [ratio_eq_ok_iff]
  constructor
  · intro h
    obtain ⟨-, base, t, hb, ht, -⟩ := h
    exact ⟨⟨base, hb⟩, t, ht⟩
  · intro h
    obtain ⟨⟨base, hb⟩, t, ht⟩ := h
    exact ⟨_, base, t, hb, ht, rfl⟩

theorem compare_eq_ok_iff {g : Grid} {kind : Kind} {b : String} {c : Comparison} :
    g.compare kind b = .ok c ↔ b ∈ g.variants ∧ c.kind = kind ∧ c.baseline = b ∧
      c.subjects = g.subjects ∧ c.series.map (·.variant) = g.variants ∧
      ∀ x ∈ c.series,
        List.Forall₂ (fun s y => g.ratio kind b x.variant s = .ok y) g.subjects x.values := by
  rw [compare_eq]
  by_cases hb : b ∈ g.variants
  · have hx : ∀ v (x : Series), (g.subjects.mapM (g.ratio kind b v)).map (Series.mk v) = .ok x ↔
        x.variant = v ∧ List.Forall₂ (fun s y => g.ratio kind b v s = .ok y) g.subjects x.values := by
      intro v x
      obtain ⟨w, ys⟩ := x
      simp only [map_eq_ok_iff, mapM_eq_ok_iff, Series.mk.injEq]
      constructor
      · intro h
        obtain ⟨zs, hzs, hw, rfl⟩ := h
        exact ⟨hw, hzs⟩
      · intro h
        obtain ⟨hw, hys⟩ := h
        exact ⟨ys, hys, hw, rfl⟩
    obtain ⟨k, b', ss, xs⟩ := c
    simp only [hb, if_true, true_and, map_eq_ok_iff, mapM_eq_ok_iff, hx, forall₂_and_iff,
      Comparison.mk.injEq]
    constructor
    · intro h
      obtain ⟨ys, hys, hk, hb', hss, rfl⟩ := h
      exact ⟨hk, hb', hss, hys⟩
    · intro h
      obtain ⟨hk, hb', hss, hxs⟩ := h
      exact ⟨xs, hxs, hk, hb', hss, rfl⟩
  · simp [hb]

theorem exists_compare_iff {g : Grid} {kind : Kind} {b : String} :
    (∃ c, g.compare kind b = .ok c) ↔
      b ∈ g.variants ∧ ∀ s ∈ g.subjects, ∀ v ∈ g.variants, ∃ t, g.get? s v = some t := by
  rw [compare_eq]
  by_cases hb : b ∈ g.variants
  · simp only [hb, if_true, true_and, exists_map_eq_ok_iff, exists_mapM_eq_ok_iff, exists_ratio_iff]
    constructor
    · intro h s hs v hv
      exact (h v hv s hs).2
    · intro h v hv s hs
      exact ⟨h s hs b hb, h s hs v hv⟩
  · simp [hb]

/-- The first cell where a variant and the baseline are not related, variant by variant and for each variant
subject by subject. -/
structure FirstLacking (g : Grid) (baseline v s : String) : Prop where
  variant : IsFirst (fun w => ∃ x ∈ g.subjects, g.Lacks baseline w x) g.variants v
  subject : IsFirst (g.Lacks baseline v) g.subjects s

section Lacking
variable {g : Grid} {kind : Kind} {b v : String}

theorem ratios_eq_error_iff {fault : ComparisonFault} :
    g.subjects.mapM (g.ratio kind b v) = .error fault ↔ ∃ s, IsFirst (g.Lacks b v) g.subjects s ∧
      fault = .incomplete kind (if g.get? s b = none then b else v) s := by
  rw [mapM_eq_error_iff]
  simp only [exists_ratio_error_iff]
  simp only [ratio_eq_error_iff]
  constructor
  · intro h
    obtain ⟨s, hs, -, hf⟩ := h
    exact ⟨s, hs, hf⟩
  · intro h
    obtain ⟨s, hs, hf⟩ := h
    exact ⟨s, hs, hs.holds, hf⟩

theorem exists_ratios_error_iff :
    (∃ fault, g.subjects.mapM (g.ratio kind b v) = .error fault) ↔ ∃ x ∈ g.subjects, g.Lacks b v x := by
  simp only [ratios_eq_error_iff, ← exists_isFirst_iff]
  constructor
  · intro h
    obtain ⟨-, s, hs, -⟩ := h
    exact ⟨s, hs⟩
  · intro h
    obtain ⟨s, hs⟩ := h
    exact ⟨_, s, hs, rfl⟩

/-- A baseline that is among the variants is not compared with if a cell has no time, and the first one is told. -/
theorem compare_eq_error_iff {fault : ComparisonFault} (hb : b ∈ g.variants) :
    g.compare kind b = .error fault ↔ ∃ v s, g.FirstLacking b v s ∧
      fault = .incomplete kind (if g.get? s b = none then b else v) s := by
  rw [compare_eq, if_pos hb, map_eq_error_iff, mapM_eq_error_iff]
  simp only [map_eq_error_iff, exists_ratios_error_iff]
  simp only [ratios_eq_error_iff]
  constructor
  · intro h
    obtain ⟨v, hv, s, hs, hf⟩ := h
    exact ⟨v, s, ⟨hv, hs⟩, hf⟩
  · intro h
    obtain ⟨v, s, h, hf⟩ := h
    exact ⟨v, h.variant, s, h.subject, hf⟩

end Lacking

theorem exists_of_compare_eq_error {g : Grid} {kind : Kind} {b : String} {fault : ComparisonFault}
    (hb : b ∈ g.variants) (h : g.compare kind b = .error fault) :
    ∃ v s, fault = .incomplete kind v s := by
  obtain ⟨v, s, -, hf⟩ := (compare_eq_error_iff hb).1 h
  exact ⟨_, s, hf⟩

theorem compare_ne_missingBaseline {g : Grid} {kind kind' : Kind} {b b' : String} (hb : b ∈ g.variants) :
    g.compare kind b ≠ .error (.missingBaseline kind' b') := by
  intro h
  obtain ⟨v, s, hf⟩ := exists_of_compare_eq_error hb h
  cases hf

end Grid
end CodecBench
