import CodecBench.Proofs.Sorting
/-!
How a pairing is related to its baseline. Both directions have the algorithms of the pairing in one order, so that the
baseline stands in one place in both, or in neither (`Category.related_exactly`). An empty pairing has no baseline and
needs none.
-/

namespace CodecBench

/-- Where the baseline stands among algorithms: at their start, or in the first place of the one asked for. -/
inductive Baseline.StandsAt : Baseline → List String → Nat → Prop where
  | start {x xs} : StandsAt .first (x :: xs) 0
  | here {a xs} : StandsAt (.named a) (a :: xs) 0
  | later {a x xs i} (hx : x ≠ a) (h : StandsAt (.named a) xs i) : StandsAt (.named a) (x :: xs) (i + 1)

/-- The ratios of measurements to the one at a place: one for itself, and for any other its time over the time of
that one, or zero if that took no time. -/
structure RelatedTo (place : Nat) (ms : List Measurement) (rs : List Float) : Prop where
  length : rs.length = ms.length
  itself : rs[place]? = some 1.0
  others : ∀ i m base, i ≠ place → ms[place]? = some base → ms[i]? = some m →
    rs[i]? = some (if base.cpuTime != 0.0 then m.cpuTime / base.cpuTime else 0.0)

namespace Baseline

theorem position?_first_iff {ms : List Measurement} {i : Nat} :
    Baseline.first.position? ms = some i ↔ Baseline.first.StandsAt (ms.map (·.algorithm)) i := by
  cases ms with
  | nil =>
    constructor
    · intro h
      cases h
    · intro h
      cases h
  | cons m ms =>
    constructor
    · intro h
      cases h
      exact .start
    · intro h
      cases h
      rfl

theorem position?_named_iff {a : String} {ms : List Measurement} {i : Nat} :
    (Baseline.named a).position? ms = some i ↔ (Baseline.named a).StandsAt (ms.map (·.algorithm)) i := by
  rw [position?]
  induction ms generalizing i with
  | nil =>
    constructor
    · intro h
      cases h
    · intro h
      cases h
  | cons m ms ih =>
    rw [List.findIdx?_cons, List.map_cons]
    by_cases hm : m.algorithm = a
    · subst hm
      rw [beq_self_eq_true, if_pos rfl]
      constructor
      · intro h
        cases h
        exact .here
      · intro h
        cases h with
        | here => rfl
        | later hx _ => exact absurd rfl hx
    · rw [beq_false_of_ne hm, if_neg Bool.false_ne_true, Option.map_eq_some_iff]
      constructor
      · intro h
        obtain ⟨j, hj, rfl⟩ := h
        exact .later hm (ih.1 hj)
      · intro h
        cases h with
        | here => exact absurd rfl hm
        | later _ h => exact ⟨_, ih.2 h, rfl⟩

theorem position?_eq_some_iff {b : Baseline} {ms : List Measurement} {i : Nat} :
    b.position? ms = some i ↔ b.StandsAt (ms.map (·.algorithm)) i := by
  cases b with
  | first => exact position?_first_iff
  | named a => exact position?_named_iff

theorem StandsAt.unique {b : Baseline} {xs : List String} {i j : Nat} (h : b.StandsAt xs i) (h' : b.StandsAt xs j) :
    i = j := by
  induction h generalizing j with
  | start =>
    cases h' with
    | start => rfl
  | here =>
    cases h' with
    | here => rfl
    | later hx _ => exact absurd rfl hx
  | later hx _ ih =>
    cases h' with
    | here => exact absurd rfl hx
    | later _ h' => rw [ih h']

theorem not_standsAt_nil {b : Baseline} {i : Nat} : ¬ b.StandsAt [] i := by
  intro h
  cases h

theorem not_occursIn_iff {b : Baseline} {ms : List Measurement} :
    ¬ b.OccursIn ms ↔ ∃ a, b = .named a ∧ a ∉ ms.map (·.algorithm) := by
  simp only [OccursIn, not_forall, exists_prop]

end Baseline

theorem relatedTo_iff {place : Nat} {ms : List Measurement} {rs : List Float} :
    RelatedTo place ms rs ↔ ∃ base, ms[place]? = some base ∧ rs = ratiosTo place base.cpuTime ms := by
  constructor
  · intro h
    -- The place is one of the measurements', as it has a ratio and there are as many of these.
    obtain ⟨hp, -⟩ := List.getElem?_eq_some_iff.1 h.itself
    rw [h.length] at hp
    have hbase := List.getElem?_eq_getElem hp
    refine ⟨ms[place], hbase, List.ext_getElem? fun i => ?_⟩
    rw [ratiosTo, List.getElem?_mapIdx]
    by_cases hi : i = place
    · subst hi
      rw [h.itself, hbase, Option.map_some, if_pos rfl]
    · cases hm : ms[i]? with
      | none =>
        rw [List.getElem?_eq_none_iff] at hm
        rw [List.getElem?_eq_none (h.length ▸ hm), Option.map_none]
      | some m => rw [h.others i m _ hi hbase hm, Option.map_some, if_neg hi, relativeTo]
  · intro h
    obtain ⟨base, hbase, rfl⟩ := h
    refine ⟨by simp [ratiosTo], ?_, fun i m base' hi hbase' hm => ?_⟩
    · rw [ratiosTo, List.getElem?_mapIdx, hbase, Option.map_some, if_pos rfl]
    · obtain rfl := Option.some.inj (hbase.symm.trans hbase')
      rw [ratiosTo, List.getElem?_mapIdx, hm, Option.map_some, if_neg hi, relativeTo]

theorem ratios?_eq_some_iff_relatedTo {b : Baseline} {ms : List Measurement} {rs : List Float} (h : ms ≠ []) :
    ratios? b ms = some rs ↔ ∃ i, b.StandsAt (ms.map (·.algorithm)) i ∧ RelatedTo i ms rs := by
  simp only [ratios?_eq_some_iff h, Baseline.position?_eq_some_iff, relatedTo_iff, exists_and_left]

theorem ratios?_eq_none_iff {b : Baseline} {ms : List Measurement} :
    ratios? b ms = none ↔ ms ≠ [] ∧ ∃ a, b = .named a ∧ a ∉ ms.map (·.algorithm) := by
  by_cases h : ms = []
  · simp [h, ratios?]
  · rw [← Baseline.not_occursIn_iff, ← exists_ratios?_iff h, Option.eq_none_iff_forall_ne_some, not_exists]
    exact (and_iff_right h).symm

namespace Pairing

def related (p : Pairing) (b : Baseline) : Except Diagnostic Ratios :=
  match p.ratios? b with
  | none => .error (.skipped p.category (.unknownBaseline b.algorithm))
  | some rs => .ok rs

theorem related_eq_ok_iff {p : Pairing} {b : Baseline} {rs : Ratios} :
    p.related b = .ok rs ↔ p.ratios? b = some rs := by
  unfold related
  cases p.ratios? b <;> simp

theorem related_eq_error_iff {p : Pairing} {b : Baseline} {d : Diagnostic} :
    p.related b = .error d ↔ p.ratios? b = none ∧ d = .skipped p.category (.unknownBaseline b.algorithm) := by
  unfold related
  cases p.ratios? b <;> simp [eq_comm]

theorem ratios?_eq_none_iff {p : Pairing} {b : Baseline} :
    p.ratios? b = none ↔ CodecBench.ratios? b p.encode = none ∨ CodecBench.ratios? b p.decode = none := by
  unfold ratios?
  cases CodecBench.ratios? b p.encode with
  | none => simp
  | some encode => cases CodecBench.ratios? b p.decode <;> simp

end Pairing

namespace Category

theorem category_of_pair {c : Category} {p : Pairing} (h : c.pair = .ok p) : p.category = c.name := by
  obtain ⟨-, rfl⟩ := pair_eq_ok_iff.1 h
  rfl

theorem report_eq_related {c : Category} {p : Pairing} (h : c.pair = .ok p) (hu : p.timeUnit = reportUnit)
    (b : Baseline) : c.report b = (p.related b).map (CategoryReport.mk p) := by
  rw [report, h, Pairing.related, category_of_pair h]
  cases hr : p.ratios? b <;> simp [hu, hr, Except.map]

theorem ratios?_eq_none_iff_of_algorithms {b : Baseline} {ms : List Measurement} {algorithms : List String}
    (h : ms.map (·.algorithm) = algorithms) :
    ratios? b ms = none ↔ algorithms ≠ [] ∧ ∃ a, b = .named a ∧ a ∉ algorithms := by
  subst h
  rw [ratios?_eq_none_iff, ne_eq, ne_eq, List.map_eq_nil_iff]

section Paired
variable {c : Category} {p : Pairing} (h : c.pair = .ok p)
include h

theorem map_algorithm_of_pair :
    p.encode.map (·.algorithm) = p.algorithms ∧ p.decode.map (·.algorithm) = p.algorithms := by
  obtain ⟨hm, rfl⟩ := pair_eq_ok_iff.1 h
  exact ⟨rfl, (map_algorithm_sort_eq_iff.2 hm.algorithms).symm⟩

theorem ascending_of_pair : p.algorithms.Pairwise fun a b => utf8Bytes a ≤ utf8Bytes b := by
  obtain ⟨-, rfl⟩ := pair_eq_ok_iff.1 h
  exact List.pairwise_map.2 ((pairwise_sortByAlgorithm _).imp utf8Bytes_le_iff.2)

theorem ratios?_eq_some_iff_of_pair {b : Baseline} {rs : Ratios} :
    p.ratios? b = some rs ↔ (p.algorithms = [] ∧ rs = ⟨[], []⟩) ∨ ∃ i, b.StandsAt p.algorithms i ∧
      RelatedTo i p.encode rs.encode ∧ RelatedTo i p.decode rs.decode := by
  obtain ⟨he, hd⟩ := map_algorithm_of_pair h
  by_cases hp : p.algorithms = []
  · have hen : p.encode = [] := List.map_eq_nil_iff.1 (he.trans hp)
    have hdn : p.decode = [] := List.map_eq_nil_iff.1 (hd.trans hp)
    simp [Pairing.ratios?, ratios?, hen, hdn, hp, Baseline.not_standsAt_nil, eq_comm]
  · have hen : p.encode ≠ [] := fun hn => hp (by rw [← he, hn, List.map_nil])
    have hdn : p.decode ≠ [] := fun hn => hp (by rw [← hd, hn, List.map_nil])
    rw [Pairing.ratios?_eq_some_iff, ratios?_eq_some_iff_relatedTo hen, ratios?_eq_some_iff_relatedTo hdn, he, hd]
    constructor
    · intro hboth
      obtain ⟨⟨i, hi, hre⟩, j, hj, hrd⟩ := hboth
      obtain rfl := hi.unique hj
      exact .inr ⟨i, hi, hre, hrd⟩
    · intro hboth
      obtain ⟨hp', -⟩ | ⟨i, hi, hre, hrd⟩ := hboth
      · exact absurd hp' hp
      · exact ⟨⟨i, hi, hre⟩, i, hi, hrd⟩

theorem related_eq_error_iff_of_pair {b : Baseline} {d : Diagnostic} :
    p.related b = .error d ↔ p.algorithms ≠ [] ∧ ∃ a, b = .named a ∧ a ∉ p.algorithms ∧
      d = .skipped c.name (.unknownBaseline a) := by
  obtain ⟨he, hd⟩ := map_algorithm_of_pair h
  rw [Pairing.related_eq_error_iff, Pairing.ratios?_eq_none_iff, ratios?_eq_none_iff_of_algorithms he,
    ratios?_eq_none_iff_of_algorithms hd, or_self, category_of_pair h]
  constructor
  · intro hn
    obtain ⟨⟨hp, a, rfl, ha⟩, rfl⟩ := hn
    exact ⟨hp, a, rfl, ha, rfl⟩
  · intro hn
    obtain ⟨hp, a, rfl, ha, rfl⟩ := hn
    exact ⟨⟨hp, a, rfl, ha⟩, rfl⟩

end Paired

/-- A pairing has no ratios exactly if it has algorithms and the one asked for is not among them, which is told with
the category and that algorithm. Otherwise one place is that of the baseline in both directions, each of which is
related to its own measurement there. Without a baseline asked for it is the first place, that of the least name. -/
theorem related_exactly {c : Category} {p : Pairing} (h : c.pair = .ok p) (b : Baseline) :
    (∀ d, p.related b = .error d ↔ p.algorithms ≠ [] ∧ ∃ a, b = .named a ∧ a ∉ p.algorithms ∧
      d = .skipped c.name (.unknownBaseline a)) ∧
    (∀ rs, p.related b = .ok rs ↔ (p.algorithms = [] ∧ rs = ⟨[], []⟩) ∨ ∃ i, b.StandsAt p.algorithms i ∧
      RelatedTo i p.encode rs.encode ∧ RelatedTo i p.decode rs.decode) ∧
    (ratios? b p.encode = none ↔ ratios? b p.decode = none) ∧
    (p.encode.map (·.algorithm) = p.algorithms ∧ p.decode.map (·.algorithm) = p.algorithms) ∧
    (∀ a as, p.algorithms = a :: as → ∀ x ∈ as, utf8Bytes a ≤ utf8Bytes x) ∧
    (p.timeUnit = reportUnit → c.report b = (p.related b).map (CategoryReport.mk p)) := by
  obtain ⟨he, hd⟩ := map_algorithm_of_pair h
  refine ⟨fun d => related_eq_error_iff_of_pair h, fun rs => ?_, ?_, ⟨he, hd⟩, fun a as ha => ?_,
    fun hu => report_eq_related h hu b⟩
  · rw [Pairing.related_eq_ok_iff, ratios?_eq_some_iff_of_pair h]
  · rw [ratios?_eq_none_iff_of_algorithms he, ratios?_eq_none_iff_of_algorithms hd]
  · have hasc := ascending_of_pair h
    rw [ha, List.pairwise_cons] at hasc
    exact hasc.1

/-- The algorithm asked for is measured twice, and its first encoding took no time. -/
theorem related_exactly_twice :
    let m (kind : Kind) (algorithm : String) (t : Float) : Measurement := ⟨"a", kind, algorithm, t, "ns", none⟩
    let c : Category := ⟨"a", [m .encode "Y" 0.0, m .encode "X" 5.0, m .encode "Y" 7.0],
      [m .decode "Y" 2.0, m .decode "Y" 4.0, m .decode "X" 8.0]⟩
    ∃ p, c.pair = .ok p ∧ (∃ rs, p.related (.named "Y") = .ok rs ∧ RelatedTo 1 p.encode rs.encode ∧
      RelatedTo 1 p.decode rs.decode ∧ rs.encode[1]? = some 1.0) ∧
      p.related (.named "Z") = .error (.skipped "a" (.unknownBaseline "Z")) := by
  intro m c
  have hp : c.pair = .ok c.paired := pair_eq_ok_iff.2 ⟨matched_iff_shared.2 ⟨by decide, by decide⟩, rfl⟩
  have hsort : IsStableSort c.encode [m .encode "X" 5.0, m .encode "Y" 0.0, m .encode "Y" 7.0] := by
    refine ⟨.swap .., by decide, fun a => ?_⟩
    by_cases ha : "X" = a
    · simp [c, m, ← ha]
    · simp [c, m, ha, List.filter_cons]
  have ha : c.paired.algorithms = ["X", "Y", "Y"] := by
    rw [paired, ← hsort.eq_sortByAlgorithm]
    rfl
  obtain ⟨hmissing, -⟩ := related_exactly hp (.named "Z")
  have hz := (hmissing _).2 ⟨by simp [ha], "Z", rfl, by simp [ha], rfl⟩
  obtain ⟨herror, hok, -⟩ := related_exactly hp (.named "Y")
  cases hr : c.paired.related (.named "Y") with
  | error d =>
    obtain ⟨-, a, hY, hn, -⟩ := (herror d).1 hr
    cases hY
    simp [ha] at hn
  | ok rs =>
    obtain ⟨hnil, -⟩ | ⟨i, hi, hencode, hdecode⟩ := (hok rs).1 hr
    · simp [ha] at hnil
    · rw [ha] at hi
      obtain rfl : i = 1 := hi.unique (.later (by decide) .here)
      exact ⟨c.paired, hp, ⟨rs, hr, hencode, hdecode, hencode.itself⟩, hz⟩

end Category
end CodecBench
