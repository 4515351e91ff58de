import CodecBench.Proofs.Comparison
/-!
Cells of comparisons. The value of a comparison on a subject and a variant is the ratio of its grid there,
and where the grid has none neither has the comparison (`Grid.value?_of_compare`). So grids that have the
same time in every cell compare alike, in whatever order their times came (`Grid.compare_alike`).
-/

namespace CodecBench

def Comparison.value? (c : Comparison) (subject variant : String) : Option Float :=
  (c.values? variant).bind fun values => (c.subjects.zip values).lookup subject

/-- Comparisons with the same values, none of them missing, whatever the order of subjects and variants. -/
structure Comparison.Alike (c d : Comparison) : Prop where
  kind : c.kind = d.kind
  baseline : c.baseline = d.baseline
  subjects : c.subjects.Perm d.subjects
  variants : (c.series.map (·.variant)).Perm (d.series.map (·.variant))
  complete : ∀ subject ∈ c.subjects, ∀ variant ∈ c.series.map (·.variant),
    (c.value? subject variant).isSome
  value : ∀ subject variant, c.value? subject variant = d.value? subject variant

inductive ComparisonFault.Alike : ComparisonFault → ComparisonFault → Prop
  | missingBaseline (kind : Kind) (baseline : String) :
      Alike (.missingBaseline kind baseline) (.missingBaseline kind baseline)
  | incomplete (kind : Kind) (variant subject variant' subject' : String) :
      Alike (.incomplete kind variant subject) (.incomplete kind variant' subject')

inductive OutcomesAlike :
    Except ComparisonFault Comparison → Except ComparisonFault Comparison → Prop
  | ok {c d : Comparison} : c.Alike d → OutcomesAlike (.ok c) (.ok d)
  | error {e f : ComparisonFault} : e.Alike f → OutcomesAlike (.error e) (.error f)

namespace OutcomesAlike
variable {x y : Except ComparisonFault Comparison}

theorem success? (h : OutcomesAlike x y) :
    Option.Rel Comparison.Alike (CodecBench.success? x) (CodecBench.success? y) := by
  cases h with
  | ok h => exact .some h
  | error h => exact .none

theorem failure? (h : OutcomesAlike x y) :
    Option.Rel ComparisonFault.Alike (CodecBench.failure? x) (CodecBench.failure? y) := by
  cases h with
  | ok h => exact .none
  | error h => exact .some h

end OutcomesAlike

theorem lookup_zip_of_forall₂ {ε : Type} {f : String → Except ε Float} {ss : List String}
    {xs : List Float} (h : List.Forall₂ (fun s x => f s = .ok x) ss xs) (s : String) :
    (ss.zip xs).lookup s = if s ∈ ss then (f s).toOption else none := by
  induction h with
  | nil => rfl
  | @cons s' x ss xs hx _ ih =>
    by_cases hs : s = s'
    · subst hs
      simp [hx, Except.toOption]
    · simp [List.lookup_cons, beq_false_of_ne hs, hs, ih]

namespace Grid

theorem toOption_ratio (g : Grid) (kind : Kind) (b v s : String) :
    (g.ratio kind b v s).toOption =
      (g.get? s b).bind fun base => (g.get? s v).map (relativeTo base) := by
  unfold ratio
  cases g.get? s b with
  | none => rfl
  | some base => cases g.get? s v <;> rfl

theorem get?_eq_none_of_subject {g : Grid} {s : String} (h : s ∉ g.subjects) (v : String) :
    g.get? s v = none := by
  have hr : g.rows.get? s = none := by
    rw [Option.eq_none_iff_forall_ne_some]
    intro row hrow
    exact h (Roster.mem_keys_iff.2 ⟨row, hrow⟩)
  rw [get?, hr, Option.bind_none]

theorem get?_eq_none_of_variant {g : Grid} {v : String} (h : v ∉ g.variants) (s : String) :
    g.get? s v = none := by
  rw [Option.eq_none_iff_forall_ne_some]
  intro t ht
  exact h (mem_variants_iff.2 ⟨s, t, ht⟩)

theorem value?_of_compare {g : Grid} {kind : Kind} {b : String} {c : Comparison}
    (h : g.compare kind b = .ok c) (s v : String) :
    c.value? s v = (g.get? s b).bind fun base => (g.get? s v).map (relativeTo base) := by
  obtain ⟨-, -, -, hs, hv, hx⟩ := compare_eq_ok_iff.1 h
  rw [← toOption_ratio g kind, Comparison.value?, Comparison.values?]
  cases hf : c.series.find? fun x => x.variant == v with
  | none =>
    have hvn : v ∉ g.variants := by
      rw [← hv, List.mem_map]
      intro hm
      obtain ⟨x, hxc, hxv⟩ := hm
      exact List.find?_eq_none.1 hf x hxc (by simp [hxv])
    rw [toOption_ratio, get?_eq_none_of_variant hvn]
    cases g.get? s b <;> rfl
  | some x =>
    have hxc : x ∈ c.series := List.mem_of_find?_eq_some hf
    have hxv : x.variant = v := by simpa using List.find?_some hf
    have hl := lookup_zip_of_forall₂ (hx x hxc) s
    rw [← hs, hxv] at hl
    rw [Option.map_some, Option.bind_some, hl]
    split
    · rfl
    · rename_i hsn
      rw [hs] at hsn
      rw [toOption_ratio, get?_eq_none_of_subject hsn, Option.bind_none]

theorem isSome_value?_of_compare {g : Grid} {kind : Kind} {b : String} {c : Comparison}
    (h : g.compare kind b = .ok c) {s v : String} (hs : s ∈ c.subjects)
    (hv : v ∈ c.series.map (·.variant)) : (c.value? s v).isSome := by
  obtain ⟨-, -, -, hcs, hcv, -⟩ := compare_eq_ok_iff.1 h
  obtain ⟨hb, hall⟩ := exists_compare_iff.1 ⟨c, h⟩
  rw [hcs] at hs
  rw [hcv] at hv
  obtain ⟨base, hbase⟩ := hall s hs b hb
  obtain ⟨t, ht⟩ := hall s hs v hv
  rw [value?_of_compare h, hbase, ht]
  rfl

theorem mem_subjects_ofTimings {xs : List Timing} {s : String} :
    s ∈ (ofTimings xs).subjects ↔ ∃ v t, (ofTimings xs).get? s v = some t := by
  simp only [subjects_ofTimings, List.mem_eraseDups, List.mem_map, get?_ofTimings, exists_lastTime?_iff]
  constructor
  · intro h
    obtain ⟨x, hx, hs⟩ := h
    exact ⟨x.variant, x, hx, hs, rfl⟩
  · intro h
    obtain ⟨v, x, hx, hs, -⟩ := h
    exact ⟨x, hx, hs⟩

section Same
variable {xs ys : List Timing} (h : ∀ s v, (ofTimings xs).get? s v = (ofTimings ys).get? s v)
include h

theorem mem_variants_congr (v : String) : v ∈ (ofTimings xs).variants ↔ v ∈ (ofTimings ys).variants := by
  simp only [mem_variants_iff, h]

theorem mem_subjects_congr (s : String) : s ∈ (ofTimings xs).subjects ↔ s ∈ (ofTimings ys).subjects := by
  simp only [mem_subjects_ofTimings, h]

theorem exists_compare_congr {kind : Kind} {b : String} :
    (∃ c, (ofTimings xs).compare kind b = .ok c) ↔ ∃ c, (ofTimings ys).compare kind b = .ok c := by
  simp only [exists_compare_iff, mem_variants_congr h, mem_subjects_congr h, h]

theorem compare_alike (kind : Kind) (b : String) :
    OutcomesAlike ((ofTimings xs).compare kind b) ((ofTimings ys).compare kind b) := by
  cases hx : (ofTimings xs).compare kind b with
  | ok c =>
    obtain ⟨d, hd⟩ := (exists_compare_congr h).1 ⟨c, hx⟩
    obtain ⟨-, hck, hcb, hcs, hcv, -⟩ := compare_eq_ok_iff.1 hx
    obtain ⟨-, hdk, hdb, hds, hdv, -⟩ := compare_eq_ok_iff.1 hd
    rw [hd]
    refine .ok ⟨hck.trans hdk.symm, hcb.trans hdb.symm, ?_, ?_,
      fun s hs v hv => isSome_value?_of_compare hx hs hv, fun s v => ?_⟩
    · rw [hcs, hds]
      exact (List.perm_ext_iff_of_nodup (Roster.nodup _) (Roster.nodup _)).2 (mem_subjects_congr h)
    · rw [hcv, hdv]
      exact (List.perm_ext_iff_of_nodup (nodup_variants _) (nodup_variants _)).2 (mem_variants_congr h)
    · rw [value?_of_compare hx, value?_of_compare hd, h, h]
  | error e =>
    cases hy : (ofTimings ys).compare kind b with
    | ok d =>
      obtain ⟨c, hc⟩ := (exists_compare_congr h).2 ⟨d, hy⟩
      rw [hx] at hc
      cases hc
    | error f =>
      refine .error ?_
      by_cases hb : b ∈ (ofTimings xs).variants
      · obtain ⟨v, s, rfl⟩ := exists_of_compare_eq_error hb hx
        obtain ⟨w, t, rfl⟩ := exists_of_compare_eq_error ((mem_variants_congr h b).1 hb) hy
        exact .incomplete kind v s w t
      · have hb' : b ∉ (ofTimings ys).variants := fun hm => hb ((mem_variants_congr h b).2 hm)
        rw [compare_eq, if_neg hb] at hx
        rw [compare_eq, if_neg hb'] at hy
        cases hx
        cases hy
        exact .missingBaseline kind b

end Same
end Grid
end CodecBench
