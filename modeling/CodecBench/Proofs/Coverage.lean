import CodecBench.Proofs.Cells
/-!
What a grid holds and what it lacks. A grid filled from times is the finite map from each cell to the time that was
entered into it last (`Grid.observed_exactly`). A cell without a time keeps it from being compared, and the one that
is told is the first of the first variant that has any (`Grid.compare_eq_error_iff`). As the baseline counts as
well and is told before the variant, it depends on the baseline which cell that is (`Grid.gap_told_exactly`).
-/

namespace CodecBench
namespace Grid

inductive EnteredLast (subject variant : String) (cpuTime : Float) : List Timing → Prop where
  | here {xs} (h : ∀ x ∈ xs, ¬ (x.subject = subject ∧ x.variant = variant)) :
      EnteredLast subject variant cpuTime (⟨subject, variant, cpuTime⟩ :: xs)
  | later {x xs} (h : EnteredLast subject variant cpuTime xs) : EnteredLast subject variant cpuTime (x :: xs)

theorem lastTime?_eq_none_iff {xs : List Timing} {s v : String} :
    lastTime? xs s v = none ↔ ∀ x ∈ xs, ¬ (x.subject = s ∧ x.variant = v) := by
  rw [Option.eq_none_iff_forall_ne_some, ← not_exists, exists_lastTime?_iff]
  simp only [not_exists, not_and]

theorem lastTime?_cons (x : Timing) (xs : List Timing) (s v : String) :
    lastTime? (x :: xs) s v =
      (lastTime? xs s v).or (if x.subject = s ∧ x.variant = v then some x.cpuTime else none) := by
  unfold lastTime?
  by_cases hx : x.subject = s ∧ x.variant = v
  · rw [List.filter_cons_of_pos (by simpa using hx), if_pos hx, List.getLast?_cons]
    cases (xs.filter fun x => x.subject = s ∧ x.variant = v).getLast? <;> rfl
  · rw [List.filter_cons_of_neg (by simpa using hx), if_neg hx, Option.or_none]

theorem lastTime?_eq_some_iff {xs : List Timing} {s v : String} {t : Float} :
    lastTime? xs s v = some t ↔ EnteredLast s v t xs := by
  induction xs with
  | nil =>
    constructor
    · intro h
      cases h
    · intro h
      cases h
  | cons x xs ih =>
    rw [lastTime?_cons, Option.or_eq_some_iff, ih, lastTime?_eq_none_iff]
    constructor
    · intro h
      obtain h | ⟨hxs, h⟩ := h
      · exact .later h
      · split at h
        · rename_i hx
          obtain ⟨subject, variant, cpuTime⟩ := x
          obtain ⟨rfl, rfl⟩ := hx
          cases h
          exact .here hxs
        · cases h
    · intro h
      cases h with
      | here hxs => exact .inr ⟨hxs, if_pos ⟨rfl, rfl⟩⟩
      | later h => exact .inl h

theorem isEmpty_ofTimings {xs : List Timing} : (ofTimings xs).isEmpty ↔ xs = [] := by
  have hs : (ofTimings xs).isEmpty ↔ (ofTimings xs).subjects = [] := by
    simp [isEmpty, Roster.isEmpty, subjects, Roster.keys]
  rw [hs, subjects_ofTimings]
  cases xs with
  | nil => simp
  | cons x xs => simp [List.eraseDups_cons]

/-- A grid is the finite map of what was entered. Each cell has its last time, each subject the place in which it
first came and at least one cell, and the three ways to ask for a variant agree. One more time changes its own cell
and no other, and moves no subject. -/
theorem observed_exactly (xs : List Timing) :
    (∀ s v t, (ofTimings xs).get? s v = some t ↔ EnteredLast s v t xs) ∧
    (∀ s v, (ofTimings xs).get? s v = none ↔ ∀ x ∈ xs, ¬ (x.subject = s ∧ x.variant = v)) ∧
    ((ofTimings xs).subjects = (xs.map (·.subject)).eraseDups ∧ (ofTimings xs).subjects.Nodup) ∧
    (∀ s, s ∈ (ofTimings xs).subjects ↔ ∃ v t, (ofTimings xs).get? s v = some t) ∧
    (∀ v, ((ofTimings xs).hasVariant v ↔ v ∈ (ofTimings xs).variants) ∧
      (v ∈ (ofTimings xs).variants ↔ ∃ s ∈ (ofTimings xs).subjects, ∃ t, (ofTimings xs).get? s v = some t)) ∧
    (ofTimings xs).variants.Nodup ∧
    ((ofTimings xs).isEmpty ↔ xs = []) ∧
    ∀ (g : Grid) (s v : String) (t : Float),
      (g.insert s v t).subjects = (if s ∈ g.subjects then g.subjects else g.subjects ++ [s]) ∧
      ∀ s' v', (g.insert s v t).get? s' v' = if s' = s ∧ v' = v then some t else g.get? s' v' := by
  refine ⟨fun s v t => ?_, fun s v => ?_, ⟨subjects_ofTimings xs, Roster.nodup _⟩, fun s => mem_subjects_ofTimings,
    fun v => ⟨hasVariant_iff, ?_⟩, nodup_variants _, isEmpty_ofTimings,
    fun g s v t => ⟨subjects_insert g s v t, fun s' v' => get?_insert g s v s' v' t⟩⟩
  · rw [get?_ofTimings, lastTime?_eq_some_iff]
  · rw [get?_ofTimings, lastTime?_eq_none_iff]
  · rw [mem_variants_iff]
    constructor
    · intro h
      obtain ⟨s, t, h⟩ := h
      exact ⟨s, mem_subjects_ofTimings.2 ⟨v, t, h⟩, t, h⟩
    · intro h
      obtain ⟨s, -, t, h⟩ := h
      exact ⟨s, t, h⟩

/-- The gap that is told of a grid in which the baseline occurs. Where the baseline has a time on every subject it
is that of the first variant without one somewhere, on the first subject where it has none. Otherwise the first
variant of all is looked at, up to the first subject on which the baseline or it has no time, and there the
baseline goes first. -/
inductive Gap (g : Grid) (baseline : String) : String → String → Prop where
  | variant {v s} (hb : ∀ x ∈ g.subjects, g.get? x baseline ≠ none)
      (hv : IsFirst (fun w => ∃ x ∈ g.subjects, g.get? x w = none) g.variants v)
      (hs : IsFirst (fun x => g.get? x v = none) g.subjects s) : Gap g baseline v s
  | baseline {v s} (hv : g.variants.head? = some v) (hs : IsFirst (g.Lacks baseline v) g.subjects s)
      (h : g.get? s baseline = none) : Gap g baseline baseline s
  | firstVariant {v s} (hb : ∃ x ∈ g.subjects, g.get? x baseline = none) (hv : g.variants.head? = some v)
      (hs : IsFirst (g.Lacks baseline v) g.subjects s) (h : g.get? s baseline ≠ none) : Gap g baseline v s

variable {g : Grid} {kind : Kind} {b v s : String}

/-- Every variant lacks something where the baseline does, so that already the first one is at fault. -/
theorem firstLacking_iff_of_missing (hb : ∃ x ∈ g.subjects, g.get? x b = none) :
    g.FirstLacking b v s ↔ g.variants.head? = some v ∧ IsFirst (g.Lacks b v) g.subjects s := by
  have hall : ∀ w ∈ g.variants, ∃ x ∈ g.subjects, g.Lacks b w x := by
    obtain ⟨x, hx, hxb⟩ := hb
    exact fun w _ => ⟨x, hx, .inl hxb⟩
  rw [← isFirst_iff_head? hall]
  exact ⟨fun h => ⟨h.variant, h.subject⟩, fun h => ⟨h.1, h.2⟩⟩

theorem firstLacking_iff_of_covers (hb : ∀ x ∈ g.subjects, g.get? x b ≠ none) :
    g.FirstLacking b v s ↔ IsFirst (fun w => ∃ x ∈ g.subjects, g.get? x w = none) g.variants v ∧
      IsFirst (fun x => g.get? x v = none) g.subjects s := by
  have hlacks : ∀ w, ∀ x ∈ g.subjects, (g.Lacks b w x ↔ g.get? x w = none) := by
    intro w x hx
    simp [Lacks, hb x hx]
  have hrow : ∀ w ∈ g.variants, (∃ x ∈ g.subjects, g.Lacks b w x) ↔ ∃ x ∈ g.subjects, g.get? x w = none :=
    fun w _ => exists_congr fun x => and_congr_right fun hx => hlacks w x hx
  rw [← isFirst_congr hrow, ← isFirst_congr (hlacks v)]
  exact ⟨fun h => ⟨h.variant, h.subject⟩, fun h => ⟨h.1, h.2⟩⟩

theorem FirstLacking.gap (h : g.FirstLacking b v s) : g.Gap b (if g.get? s b = none then b else v) s := by
  by_cases hb : ∃ x ∈ g.subjects, g.get? x b = none
  -- Without the baseline no variant is complete, so the first one is as far as the comparison gets.
  · obtain ⟨hv, hs⟩ := (firstLacking_iff_of_missing hb).1 h
    by_cases hsb : g.get? s b = none
    · rw [if_pos hsb]
      exact .baseline hv hs hsb
    · rw [if_neg hsb]
      exact .firstVariant hb hv hs hsb
  · have hc : ∀ x ∈ g.subjects, g.get? x b ≠ none := fun x hx hxb => hb ⟨x, hx, hxb⟩
    obtain ⟨hv, hs⟩ := (firstLacking_iff_of_covers hc).1 h
    rw [if_neg (hc s hs.mem)]
    exact .variant hc hv hs

theorem Gap.exists_firstLacking {w : String} (h : g.Gap b w s) :
    ∃ v, g.FirstLacking b v s ∧ w = if g.get? s b = none then b else v := by
  cases h with
  | variant hc hv hs =>
    exact ⟨w, (firstLacking_iff_of_covers hc).2 ⟨hv, hs⟩, (if_neg (hc s hs.mem)).symm⟩
  | @baseline v _ hv hs hsb =>
    exact ⟨v, (firstLacking_iff_of_missing ⟨s, hs.mem, hsb⟩).2 ⟨hv, hs⟩, (if_pos hsb).symm⟩
  | firstVariant hb hv hs hsb =>
    exact ⟨w, (firstLacking_iff_of_missing hb).2 ⟨hv, hs⟩, (if_neg hsb).symm⟩

theorem mem_variants_iff_exists : v ∈ g.variants ↔ ∃ s, g.get? s v ≠ none := by
  simp only [mem_variants_iff, Option.ne_none_iff_exists']

theorem compare_eq_missingBaseline_iff {k : Kind} {b' : String} :
    g.compare kind b = .error (.missingBaseline k b') ↔ k = kind ∧ b' = b ∧ b ∉ g.variants := by
  by_cases hb : b ∈ g.variants
  · simp [hb, compare_ne_missingBaseline hb]
  · simp [compare_eq, hb, eq_comm]

section Present
variable (hb : b ∈ g.variants)
include hb

theorem compare_eq_incomplete_iff {k : Kind} :
    g.compare kind b = .error (.incomplete k v s) ↔ k = kind ∧ g.Gap b v s := by
  rw [compare_eq_error_iff hb]
  constructor
  · intro h
    obtain ⟨w, x, hw, hf⟩ := h
    obtain ⟨rfl, rfl, rfl⟩ := ComparisonFault.incomplete.inj hf
    exact ⟨rfl, hw.gap⟩
  · intro h
    obtain ⟨rfl, hgap⟩ := h
    obtain ⟨w, hw, rfl⟩ := hgap.exists_firstLacking
    exact ⟨w, s, hw, rfl⟩

theorem Gap.genuine (h : g.Gap b v s) : s ∈ g.subjects ∧ v ∈ g.variants ∧ g.get? s v = none := by
  cases h with
  | variant _ hv hs => exact ⟨hs.mem, hv.mem, hs.holds⟩
  | baseline _ hs hsb => exact ⟨hs.mem, hb, hsb⟩
  | firstVariant _ hv hs hsb => exact ⟨hs.mem, List.mem_of_head? hv, hs.holds.resolve_left hsb⟩

theorem exists_gap_iff : (∃ v s, g.Gap b v s) ↔ ∃ s ∈ g.subjects, ∃ v ∈ g.variants, g.get? s v = none := by
  constructor
  · intro h
    obtain ⟨v, s, h⟩ := h
    obtain ⟨hs, hv, hn⟩ := h.genuine hb
    exact ⟨s, hs, v, hv, hn⟩
  · intro h
    obtain ⟨s, hs, v, hv, hn⟩ := h
    have hlacks : ∃ w ∈ g.variants, ∃ x ∈ g.subjects, g.Lacks b w x := ⟨v, hv, s, hs, .inr hn⟩
    obtain ⟨w, hw⟩ := exists_isFirst_iff.2 hlacks
    obtain ⟨x, hx⟩ := exists_isFirst_iff.2 hw.holds
    exact ⟨_, x, FirstLacking.gap ⟨hw, hx⟩⟩

end Present

/-- A grid is not compared with a baseline that occurs nowhere. With any other it is compared unless some subject
is without some variant, and then one gap is told. It is one: the variant has no time there, but it has elsewhere. -/
theorem gap_told_exactly (g : Grid) (kind : Kind) (b : String) :
    (∀ k b', g.compare kind b = .error (.missingBaseline k b') ↔
      k = kind ∧ b' = b ∧ ∀ s, g.get? s b = none) ∧
    ((∃ s, g.get? s b ≠ none) →
      ((∃ k v s, g.compare kind b = .error (.incomplete k v s)) ↔
        ∃ s ∈ g.subjects, ∃ v ∈ g.variants, g.get? s v = none) ∧
      ∀ k v s, g.compare kind b = .error (.incomplete k v s) ↔ k = kind ∧ g.Gap b v s) ∧
    ∀ k v s, g.compare kind b = .error (.incomplete k v s) →
      s ∈ g.subjects ∧ g.get? s v = none ∧ ∃ s', g.get? s' v ≠ none := by
  have hincomplete : ∀ k v s, g.compare kind b = .error (.incomplete k v s) → b ∈ g.variants := by
    intro k v s h
    by_contra hb
    rw [compare_eq, if_neg hb] at h
    cases h
  refine ⟨fun k b' => ?_, fun h => ?_, fun k v s h => ?_⟩
  · rw [compare_eq_missingBaseline_iff, mem_variants_iff_exists]
    simp only [not_exists, not_not]
  · have hb := mem_variants_iff_exists.2 h
    refine ⟨?_, fun k v s => compare_eq_incomplete_iff hb⟩
    simp only [compare_eq_incomplete_iff hb, ← exists_gap_iff hb, exists_and_left, exists_eq_left]
  · have hb := hincomplete k v s h
    obtain ⟨hs, hv, hn⟩ := ((compare_eq_incomplete_iff hb).1 h).2.genuine hb
    exact ⟨hs, hn, mem_variants_iff_exists.1 hv⟩

/-- The baseline is missing on the last subject only, but the first variant already is on the one before. -/
theorem gap_told_exactly_beforeBaseline :
    let g := ofTimings [⟨"a", "X", 1.0⟩, ⟨"a", "Base", 2.0⟩, ⟨"b", "Base", 3.0⟩, ⟨"c", "X", 4.0⟩]
    (∃ s, g.get? s "Base" ≠ none) ∧ g.get? "c" "Base" = none ∧
      g.compare .encode "Base" = .error (.incomplete .encode "X" "b") ∧ g.get? "b" "X" = none := by
  intro g
  have hbase : ∃ s, g.get? s "Base" ≠ none := ⟨"a", by simp [g, get?_ofTimings, lastTime?]⟩
  have hc : g.get? "c" "Base" = none := by simp [g, get?_ofTimings, lastTime?]
  have hb : g.get? "b" "Base" ≠ none ∧ g.get? "b" "X" = none := by simp [g, get?_ofTimings, lastTime?]
  have ha : ¬ g.Lacks "Base" "X" "a" := by simp [Lacks, g, get?_ofTimings, lastTime?]
  have hgap : g.Gap "Base" "X" "b" := by
    apply Gap.firstVariant
    · exact ⟨"c", by decide, hc⟩
    · decide
    · exact .tail ha (.head (.inr hb.2))
    · exact hb.1
  obtain ⟨-, hpresent, hgenuine⟩ := gap_told_exactly g .encode "Base"
  have htold := ((hpresent hbase).2 .encode "X" "b").2 ⟨rfl, hgap⟩
  exact ⟨hbase, hc, htold, (hgenuine _ _ _ htold).2.1⟩

end Grid
end CodecBench
