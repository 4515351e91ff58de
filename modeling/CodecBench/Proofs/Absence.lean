import CodecBench.Proofs.ChartFolder
import CodecBench.Proofs.Counting
import CodecBench.Proofs.Overflow
/-!
What is absent in charts and in tables. A cell shows that a ratio is absent only if it is, but a bar is null also
if the ratio is there and infinite. So a category chart agrees with its table unless a ratio in it overflows, and
all charts agree with their tables exactly if the ratios of every algorithm have a sum in range
(`Report.absences_exactly`).
-/

namespace CodecBench

section Texts

theorem Decimal.notMem_zeros {c : Char} (hc : c.isDigit = false) (n : Nat) : c ∉ zeros n := by
  intro h
  rw [List.eq_of_mem_replicate h] at hc
  exact absurd hc (by decide)

theorem Decimal.notMem_withPoint {c : Char} (hc : c.isDigit = false) (hp : c ≠ '.') {digits : List Char}
    (hd : c ∉ digits) (places : Nat) : c ∉ withPoint digits places := by
  have hpad : c ∉ zeros (places + 1 - digits.length) ++ digits := by
    simp [notMem_zeros hc, hd]
  unfold withPoint
  simp only
  split
  · exact fun h => hpad (List.mem_of_mem_take h)
  · rw [List.mem_append, List.mem_cons, not_or, not_or]
    exact ⟨fun h => hpad (List.mem_of_mem_take h), hp, fun h => hpad (List.mem_of_mem_drop h)⟩

theorem Decimal.notMem_text {c : Char} (hc : c.isDigit = false) (hs : c ∉ ['.', '+', '-', 'e']) (m : Manner)
    (d : Decimal) : c ∉ d.text m := by
  have h0 : c ≠ '0' := by
    rintro rfl
    exact absurd hc (by decide)
  simp only [List.mem_cons, List.not_mem_nil, or_false, not_or] at hs
  obtain ⟨hpoint, hplus, hminus, he⟩ := hs
  have hd : c ∉ (if d.coefficient = 0 then ['0'] else d.digits) := by
    rw [digits]
    split
    · simpa using h0
    · exact notMem_toDigits hc _
  unfold text
  simp only
  generalize (if d.coefficient = 0 then ['0'] else d.digits) = digits at hd ⊢
  split
  · unfold positionalText
    split
    · exact notMem_withPoint hc hpoint hd _
    · split <;> simp [hd, notMem_zeros hc, hpoint, h0]
  · have hsign : c ≠ if (digits.length : Int) - 1 + d.exponent < 0 then '-' else '+' := by
      split
      · exact hminus
      · exact hplus
    have htake : c ∉ digits.take 1 := fun h => hd (List.mem_of_mem_take h)
    have hdrop : c ∉ digits.drop 1 := fun h => hd (List.mem_of_mem_drop h)
    unfold scientificText
    simp only [List.mem_append, List.mem_cons, not_or]
    refine ⟨⟨htake, ?_⟩, he, hsign, notMem_toDigits hc _⟩
    split
    · exact List.not_mem_nil
    · rw [List.mem_cons, not_or]
      exact ⟨hpoint, hdrop⟩

theorem shortestText_ne_null (m : Manner) (x : Float) : shortestText m x ≠ "null" := by
  intro h
  have hl : 'l' ∈ (shortestText m x).toList := by
    rw [h]
    decide
  unfold shortestText at hl
  cases hb : Binary.ofFloat x with
  | nan => simp [hb, Binary.text] at hl
  | infinite negative => cases negative <;> simp [hb, Binary.text, Binary.signed] at hl
  | finite negative significand exponent =>
    have hd := Decimal.notMem_text (c := 'l') (by decide) (by decide) m
      (Decimal.shortest m.tieUp significand exponent)
    cases negative <;> simp [hb, Binary.text, Binary.signed, hd] at hl

theorem numberText_eq_null_iff (x : Float) : Json.numberText x = "null" ↔ ¬ x.isFinite := by
  unfold Json.numberText
  split
  · rename_i h
    exact iff_of_false (shortestText_ne_null _ x) (fun hn => hn h)
  · rename_i h
    exact iff_of_true rfl h

theorem percent_eq_absent_iff {r : Option Float} : Row.percent r = Row.absent ↔ r = none := by
  cases r with
  | none => simp [Row.percent]
  | some x =>
    refine iff_of_false (fun h => ?_) (by simp)
    have hl := congrArg (fun s => s.toList.getLast?) h
    simp [Row.percent, Row.absent, String.toList_append] at hl

/-- A bar is null where there is no ratio, but also where it is infinite. -/
theorem pretty_bar_eq_null_iff {r : Option Float} {depth : Nat} :
    (Chart.bar r).pretty depth = "null" ↔ ∀ x, r = some x → ¬ x.isFinite := by
  cases r with
  | none => simp [Chart.bar, Json.pretty]
  | some x => simp [Chart.bar, Json.pretty, numberText_eq_null_iff]

end Texts

def Json.items (key : String) : Json → List Json
  | .object members =>
    match members.lookup key with
    | some (.array items) => items
    | _ => []
  | _ => []

def Kind.member : Kind → String
  | .encode => "encode"
  | .decode => "decode"
  | .other tag => tag

def Chart.barTexts (c : Chart) (kind : Kind) : List String :=
  (c.toJson.items kind.member).map fun bar => bar.pretty 2

def Table.percentages (t : Table) (kind : Kind) : List String :=
  t.rows.map fun r => r.cells.getD (headers.idxOf kind.tag) ""

/-- A bar is null exactly where the cell shows that there is no ratio. -/
def AbsencesShared (c : Chart) (t : Table) (kind : Kind) : Prop :=
  ∀ i : Nat, (c.barTexts kind)[i]? = some "null" ↔ (t.percentages kind)[i]? = some Row.absent

def Bars.side (b : Bars) : Kind → List (Option Float)
  | .encode => b.encode
  | .decode => b.decode
  | .other _ => []

def Row.ratio (r : Row) : Kind → Option Float
  | .encode => r.encodeRatio
  | .decode => r.decodeRatio
  | .other _ => none

theorem Chart.barTexts_category (b : Bars) {kind : Kind} (hk : kind.isMeasured) :
    (Chart.category b).barTexts kind = (b.side kind).map fun r => (bar r).pretty 2 := by
  obtain rfl | rfl := Kind.isMeasured_iff.1 hk <;>
    simp [barTexts, toJson, barsJson, Json.items, Kind.member, Bars.side, List.lookup]

theorem Chart.barTexts_overall (b : Bars) {kind : Kind} (hk : kind.isMeasured) :
    (Chart.overall b).barTexts kind = (b.side kind).map fun r => (bar r).pretty 2 := by
  obtain rfl | rfl := Kind.isMeasured_iff.1 hk <;>
    simp [barTexts, toJson, barsJson, Json.items, Kind.member, Bars.side, List.lookup]

theorem Table.percentages_eq (t : Table) {kind : Kind} (hk : kind.isMeasured) :
    t.percentages kind = (t.rows.map (·.ratio kind)).map Row.percent := by
  rw [percentages, List.map_map]
  obtain rfl | rfl := Kind.isMeasured_iff.1 hk
  · rfl
  · rfl

section Same
variable {c : Chart} {t : Table} {kind : Kind} {rs : List (Option Float)}
  (hb : c.barTexts kind = rs.map fun r => (Chart.bar r).pretty 2) (ht : t.percentages kind = rs.map Row.percent)
include hb ht

theorem null_of_absent {i : Nat} (h : (t.percentages kind)[i]? = some Row.absent) :
    (c.barTexts kind)[i]? = some "null" := by
  rw [ht, List.getElem?_map, Option.map_eq_some_iff] at h
  obtain ⟨r, hr, hp⟩ := h
  rw [hb, List.getElem?_map, hr, Option.map_some, Option.some_inj, pretty_bar_eq_null_iff]
  intro x hx
  rw [percent_eq_absent_iff.1 hp] at hx
  cases hx

theorem absencesShared_iff : AbsencesShared c t kind ↔ ∀ x, some x ∈ rs → x.isFinite := by
  constructor
  · intro h x hx
    obtain ⟨i, hi⟩ := List.mem_iff_getElem?.1 hx
    by_contra hf
    have hnull : (c.barTexts kind)[i]? = some "null" := by
      rw [hb, List.getElem?_map, hi, Option.map_some, Option.some_inj, pretty_bar_eq_null_iff]
      intro y hy
      cases hy
      exact hf
    have habs := (h i).1 hnull
    rw [ht, List.getElem?_map, hi, Option.map_some, Option.some_inj, percent_eq_absent_iff] at habs
    cases habs
  · intro h i
    refine ⟨fun hnull => ?_, null_of_absent hb ht⟩
    rw [hb, List.getElem?_map, Option.map_eq_some_iff] at hnull
    obtain ⟨r, hr, hp⟩ := hnull
    have hnone : r = none := by
      cases r with
      | none => rfl
      | some x => exact absurd (h x (List.mem_of_getElem? hr)) (pretty_bar_eq_null_iff.1 hp x rfl)
    rw [ht, List.getElem?_map, hr, Option.map_some, Option.some_inj, percent_eq_absent_iff, hnone]

end Same

def CategoryReport.table (c : CategoryReport) : Table := ⟨some c.pairing.title, c.rows⟩

theorem CategoryReport.texts_eq {c : CategoryReport} (h : c.Parallel) {kind : Kind} (hk : kind.isMeasured) :
    c.chart.barTexts kind = ((c.side kind).map fun x => some x.2).map (fun r => (Chart.bar r).pretty 2) ∧
    c.table.percentages kind = ((c.side kind).map fun x => some x.2).map Row.percent := by
  have hsnd : ∀ (ms : List Measurement) (rs : List Float), rs.length = ms.length →
      ((ms.zip rs).map fun x => some x.2) = rs.map some := by
    intro ms rs hl
    calc ((ms.zip rs).map fun x => some x.2)
        = ((ms.zip rs).map (·.2)).map some := by rw [List.map_map]; rfl
      _ = rs.map some := by rw [List.map_snd_zip (Nat.le_of_eq hl)]
  have hlen : c.pairing.encode.length = c.pairing.decode.length := by
    rw [← List.length_map (f := (·.algorithm)), h.encode_algorithms, ← h.decode_algorithms, List.length_map]
  have hsize : c.table.rows.length = c.pairing.encode.length := by
    simp [table, rows, Pairing.rows, Pairing.pairs, hlen]
  rw [Table.percentages_eq _ hk, chart, Chart.ofPairing, Chart.barTexts_category _ hk]
  obtain rfl | rfl := Kind.isMeasured_iff.1 hk
  · have hrows : c.table.rows.map (·.ratio .encode) = c.ratios.encode.map some := by
      refine List.ext_getElem (by simp [hsize, h.encode_ratios]) fun i _ hi => ?_
      rw [List.length_map] at hi
      simp [table, rows, Pairing.rows, Row.ratio, hi]
    rw [hrows, side, hsnd _ _ h.encode_ratios]
    exact ⟨rfl, rfl⟩
  · have hrows : c.table.rows.map (·.ratio .decode) = c.ratios.decode.map some := by
      refine List.ext_getElem (by simp [hsize, hlen, h.decode_ratios]) fun i _ hi => ?_
      rw [List.length_map] at hi
      simp [table, rows, Pairing.rows, Row.ratio, hi]
    rw [hrows, side, hsnd _ _ h.decode_ratios]
    exact ⟨rfl, rfl⟩

theorem Standing.texts_eq (ss : List Standing) {kind : Kind} (hk : kind.isMeasured) :
    (Chart.ofStandings ss).barTexts kind =
      (ss.map fun s => (s.mean? kind).map (·.ratio)).map (fun r => (Chart.bar r).pretty 2) ∧
    (⟨none, ss.map Row.ofStanding⟩ : Table).percentages kind =
      (ss.map fun s => (s.mean? kind).map (·.ratio)).map Row.percent := by
  rw [Table.percentages_eq _ hk, Chart.ofStandings, Chart.barTexts_overall _ hk]
  obtain rfl | rfl := Kind.isMeasured_iff.1 hk
  · simp [Bars.side, Row.ratio, mean?, Row.ofStanding]
  · simp [Bars.side, Row.ratio, mean?, Row.ofStanding]

theorem CategoryReport.isFinite_of_total_counted {kind : Kind} {cs : List CategoryReport}
    (h : ∀ a, (total ((counted cs kind a).map (·.2))).isFinite) {c : CategoryReport} (hc : c ∈ cs)
    {x : Measurement × Float} (hx : x ∈ c.side kind) : x.2.isFinite := by
  cases hz : x.2 == 0.0 with
  | true =>
    obtain ⟨sign, hu⟩ := beq_zero_iff.1 hz
    change x.2.toModel.unpack.isFinite
    rw [hu]
    rfl
  | false =>
    refine isFinite_of_total (h x.1.algorithm) x.2 ?_
    rw [counted, List.map_map]
    refine List.mem_map.2 ⟨x, List.mem_filter.2 ⟨List.mem_flatMap.2 ⟨c, hc, hx⟩, ?_⟩, rfl⟩
    simp [hz]

namespace Report
open CategoryReport

theorem texts_overall_eq (s : Settings) (inputs : List Input) {kind : Kind} (hk : kind.isMeasured) :
    let r := ofInputs s inputs
    let ratios := (r.categories.flatMap (·.pairing.algorithms)).eraseDups.map fun a =>
      (meanOf? (counted r.categories kind a)).map (·.ratio)
    (Chart.ofStandings r.overall).barTexts kind = ratios.map (fun x => (Chart.bar x).pretty 2) ∧
    (⟨none, r.overall.map Row.ofStanding⟩ : Table).percentages kind = ratios.map Row.percent := by
  intro r ratios
  have ho : r.overall = standings r.categories := rfl
  have hr : r.overall.map (fun x => (x.mean? kind).map (·.ratio)) = ratios := by
    rw [ho, standings_eq fun c hc => parallel_of_mem hc, List.map_map]
    obtain rfl | rfl := Kind.isMeasured_iff.1 hk
    · rfl
    · rfl
  rw [← hr]
  exact Standing.texts_eq r.overall hk

section Reported
variable {s : Settings} {inputs : List Input} {kind : Kind} (hk : kind.isMeasured)
include hk

theorem isFinite_ratio_iff {c : CategoryReport} (hc : c ∈ (ofInputs s inputs).categories) {p : Nat}
    {base : Measurement} (hb : c.baseline? s.baseline kind = some (p, base)) {j : Nat} {x : Measurement × Float}
    (hx : (c.side kind)[j]? = some x) :
    x.2.isFinite ↔ j = p ∨ base.cpuTime == 0.0 ∨ ¬ Overflows x.1.cpuTime base.cpuTime := by
  obtain ⟨p', base', hb', hbase, hside⟩ := exists_baseline? hc hk
  obtain ⟨rfl, rfl⟩ : p' = p ∧ base' = base := by simpa [hb'] using hb
  obtain ⟨ht, hr⟩ := hside j x hx
  rw [hr]
  by_cases hj : j = p'
  · rw [if_pos hj]
    exact iff_of_true isFinite_one (.inl hj)
  · rw [if_neg hj, isFinite_relativeTo_iff hbase ht]
    exact ⟨.inr, fun h => h.resolve_left hj⟩

theorem absencesShared_category_iff {c : CategoryReport} (hc : c ∈ (ofInputs s inputs).categories) :
    AbsencesShared c.chart c.table kind ↔ ∀ x ∈ c.side kind, x.2.isFinite := by
  obtain ⟨hb, ht⟩ := c.texts_eq (parallel_of_mem hc) hk
  rw [absencesShared_iff hb ht]
  constructor
  · intro h x hx
    exact h x.2 (List.mem_map.2 ⟨x, hx, rfl⟩)
  · intro h y hy
    obtain ⟨x, hx, hxy⟩ := List.mem_map.1 hy
    cases hxy
    exact h x hx

theorem absencesShared_category_iff_overflows {c : CategoryReport}
    (hc : c ∈ (ofInputs s inputs).categories) :
    AbsencesShared c.chart c.table kind ↔ ∀ p base, c.baseline? s.baseline kind = some (p, base) →
      base.cpuTime != 0.0 → ∀ j x, (c.side kind)[j]? = some x → j ≠ p →
        ¬ Overflows x.1.cpuTime base.cpuTime := by
  rw [absencesShared_category_iff hk hc]
  constructor
  · intro h p base hb hb0 j x hx hj
    have hf := (isFinite_ratio_iff hk hc hb hx).1 (h x (List.mem_of_getElem? hx))
    refine (hf.resolve_left hj).resolve_left fun hz => ?_
    simp [bne, hz] at hb0
  · intro h x hx
    obtain ⟨p, base, hb, -, -⟩ := exists_baseline? hc hk
    obtain ⟨j, hj⟩ := List.mem_iff_getElem?.1 hx
    rw [isFinite_ratio_iff hk hc hb hj]
    by_cases hjp : j = p
    · exact .inl hjp
    · cases hz : base.cpuTime == 0.0 with
      | true => exact .inr (.inl rfl)
      | false => exact .inr (.inr (h p base hb (by simp [bne, hz]) j x hj hjp))

theorem mem_algorithms_of_counted {a : String} {x : Float × Float}
    (hx : x ∈ counted (ofInputs s inputs).categories kind a) :
    a ∈ ((ofInputs s inputs).categories.flatMap (·.pairing.algorithms)).eraseDups := by
  obtain ⟨y, hy, -⟩ := List.mem_map.1 hx
  obtain ⟨hy, ha⟩ := List.mem_filter.1 hy
  obtain ⟨c, hc, hyc⟩ := List.mem_flatMap.1 hy
  have ha' : y.1.algorithm = a := by
    simp only [decide_eq_true_eq] at ha
    exact ha.1
  rw [List.mem_eraseDups, List.mem_flatMap]
  refine ⟨c, hc, ?_⟩
  rw [← (parallel_of_mem hc).map_algorithm_side hk, ← ha']
  exact List.mem_map_of_mem hyc

theorem absencesShared_overall_iff :
    AbsencesShared (.ofStandings (ofInputs s inputs).overall)
      ⟨none, (ofInputs s inputs).overall.map Row.ofStanding⟩ kind ↔
      ∀ a, (total ((counted (ofInputs s inputs).categories kind a).map (·.2))).isFinite := by
  obtain ⟨hb, ht⟩ := texts_overall_eq s inputs hk
  rw [absencesShared_iff hb ht]
  constructor
  · intro h a
    cases hm : meanOf? (counted (ofInputs s inputs).categories kind a) with
    | none =>
      have hnil : counted (ofInputs s inputs).categories kind a = [] := by
        cases hl : counted (ofInputs s inputs).categories kind a with
        | nil => rfl
        | cons x xs => simp [hl, meanOf?] at hm
      rw [hnil]
      exact isFinite_zero
    | some m =>
      have hne : counted (ofInputs s inputs).categories kind a ≠ [] := by
        intro hnil
        simp [hnil, meanOf?] at hm
      obtain ⟨x, hx⟩ := List.exists_mem_of_ne_nil _ hne
      rw [← isFinite_ratio_of_meanOf? hm]
      exact h m.ratio (List.mem_map.2 ⟨a, mem_algorithms_of_counted hk hx, by rw [hm]; rfl⟩)
  · intro h x hx
    obtain ⟨a, -, hax⟩ := List.mem_map.1 hx
    obtain ⟨m, hm, rfl⟩ := Option.map_eq_some_iff.1 hax
    exact (isFinite_ratio_of_meanOf? hm).2 (h a)

end Reported

/-- In the category charts and in the overall chart a bar is null exactly where the table shows that there is no
ratio. -/
def AbsencesAgree (r : Report) : Prop :=
  ∀ x ∈ r.charts.zip (r.tables true), ∀ kind, kind.isMeasured → AbsencesShared x.1 x.2 kind

theorem zip_charts_tables (r : Report) : r.charts.zip (r.tables true) =
    r.categories.map (fun c => (c.chart, c.table)) ++
      [(.ofStandings r.overall, ⟨none, r.overall.map Row.ofStanding⟩)] := by
  rw [charts, tables, if_pos rfl, List.zip_append (by simp), List.zip_map']
  simp [CategoryReport.chart, CategoryReport.table]

theorem forall_zip_charts_tables_iff {r : Report} {p : Chart × Table → Prop} :
    (∀ x ∈ r.charts.zip (r.tables true), p x) ↔
      (∀ c ∈ r.categories, p (c.chart, c.table)) ∧
        p (.ofStandings r.overall, ⟨none, r.overall.map Row.ofStanding⟩) := by
  rw [zip_charts_tables]
  simp only [List.mem_append, List.mem_map, List.mem_singleton]
  constructor
  · intro h
    exact ⟨fun c hc => h _ (.inl ⟨c, hc, rfl⟩), h _ (.inr rfl)⟩
  · intro h x hx
    obtain ⟨c, hc, rfl⟩ | rfl := hx
    · exact h.1 c hc
    · exact h.2

/-- What a report shows as absent in its charts and in its tables. There are as many bars as rows, and where a cell
shows that there is no ratio the bar is null. A category chart agrees with its table if no ratio in it overflows,
and all of them agree, the overall chart included, if for every algorithm the ratios that count have a sum in
range. -/
theorem absences_exactly (s : Settings) (inputs : List Input) :
    let r := ofInputs s inputs
    (∀ x ∈ r.charts.zip (r.tables true), ∀ kind, kind.isMeasured →
      (x.1.barTexts kind).length = (x.2.percentages kind).length ∧
      ∀ i : Nat, (x.2.percentages kind)[i]? = some Row.absent → (x.1.barTexts kind)[i]? = some "null") ∧
    (∀ c ∈ r.categories, ∀ kind, kind.isMeasured →
      (AbsencesShared c.chart c.table kind ↔ ∀ p base, c.baseline? s.baseline kind = some (p, base) →
        base.cpuTime != 0.0 → ∀ j x, (c.side kind)[j]? = some x → j ≠ p →
          ¬ Overflows x.1.cpuTime base.cpuTime)) ∧
    (AbsencesAgree r ↔ ∀ kind, kind.isMeasured → ∀ a,
      (total ((counted r.categories kind a).map (·.2))).isFinite) := by
  intro r
  refine ⟨?_, fun c hc kind hk => absencesShared_category_iff_overflows hk hc, ?_⟩
  · refine forall_zip_charts_tables_iff.2 ⟨fun c hc kind hk => ?_, fun kind hk => ?_⟩
    · obtain ⟨hb, ht⟩ := c.texts_eq (parallel_of_mem hc) hk
      exact ⟨by simp [hb, ht], fun i => null_of_absent hb ht⟩
    · obtain ⟨hb, ht⟩ := texts_overall_eq s inputs hk
      exact ⟨by simp only [r, hb, ht, List.length_map], fun i => null_of_absent hb ht⟩
  · rw [AbsencesAgree, forall_zip_charts_tables_iff]
    constructor
    · intro h kind hk
      exact (absencesShared_overall_iff hk).1 (h.2 kind hk)
    · intro h
      exact ⟨fun c hc kind hk => (absencesShared_category_iff hk hc).2 fun x hx =>
        isFinite_of_total_counted (h kind hk) hc hx, fun kind hk => (absencesShared_overall_iff hk).2 (h kind hk)⟩

def farApart : List Input :=
  [⟨"run", [⟨"a/Encode_X", some 1e-300, some "ns", none, none⟩, ⟨"a/Encode_Y", some 1e10, some "ns", none, none⟩,
    ⟨"a/Decode_X", some 1.0, some "ns", none, none⟩, ⟨"a/Decode_Y", some 1.0, some "ns", none, none⟩]⟩]

theorem exists_side_farApart :
    ∃ c ∈ (ofInputs ⟨.named "X", "X", .algorithms, false⟩ farApart).categories, ∃ p base j x,
      c.baseline? (.named "X") .encode = some (p, base) ∧ base.cpuTime != 0.0 ∧
      (c.side .encode)[j]? = some x ∧ j ≠ p ∧ Overflows x.1.cpuTime base.cpuTime := by
  have hr : "a" ∈ (ofInputs ⟨.named "X", "X", .algorithms, false⟩ farApart).reported :=
    mem_reported_iff.2 (by decide +kernel)
  obtain ⟨m, hm, hcat, hmk, hY, ht⟩ : ∃ m ∈ primary farApart, m.category = "a" ∧ m.kind = .encode ∧
      m.algorithm = "Y" ∧ m.cpuTime = 1e10 := by
    decide +kernel
  have hall : ∀ m ∈ primary farApart, m.kind = .encode → m.algorithm = "X" → m.cpuTime = 1e-300 := by
    decide +kernel
  obtain ⟨c, hc, p, base, j, x, hb, ⟨hbm, hbk, hX⟩, hx, hj, rfl⟩ :=
    exists_side_beside_baseline hr (a := "X") rfl rfl hm hcat hmk (by rw [hY]; decide)
  have hbase := hall base hbm hbk hX
  refine ⟨c, hc, p, base, j, x, hb, ?_, hx, hj, ?_⟩
  · rw [hbase]
    decide +kernel
  · rw [hbase, ht]
    decide +kernel

theorem absences_exactly_farApart :
    ∃ c ∈ (ofInputs ⟨.named "X", "X", .algorithms, false⟩ farApart).categories,
      AbsencesShared c.chart c.table .decode ∧ ¬ AbsencesShared c.chart c.table .encode := by
  obtain ⟨c, hc, p, base, j, x, hb, hbase, hx, hj, ho⟩ := exists_side_farApart
  obtain ⟨-, hcategories, -⟩ := absences_exactly ⟨.named "X", "X", .algorithms, false⟩ farApart
  refine ⟨c, hc, (hcategories c hc .decode rfl).2 fun p base hb _ j x hx _ => ?_, fun h => ?_⟩
  · have hall : ∀ m ∈ primary farApart, m.kind = .decode → m.cpuTime = 1.0 := by decide +kernel
    have hone : ∀ m ∈ (c.side .decode).map (·.1), m.cpuTime = 1.0 := by
      intro m hm
      rw [map_fst_side hc rfl] at hm
      obtain ⟨hm, -, hk⟩ := mem_sortedSide_iff.1 hm
      exact hall m hm hk
    rw [hone x.1 (List.mem_map_of_mem (List.mem_of_getElem? hx)),
      hone base (List.mem_of_getElem? (algorithm_of_baseline? hb).1)]
    decide +kernel
  · exact (hcategories c hc .encode rfl).1 h p base hb hbase j x hx hj ho

/-- A bar is null although the cell shows a percentage. -/
theorem not_absencesAgree_farApart :
    ¬ AbsencesAgree (ofInputs ⟨.named "X", "X", .algorithms, false⟩ farApart) := by
  intro h
  obtain ⟨c, hc, p, base, j, x, hb, hbase, hx, hj, ho⟩ := exists_side_farApart
  have hshared := (forall_zip_charts_tables_iff.1 h).1 c hc .encode rfl
  exact (absencesShared_category_iff_overflows rfl hc).1 hshared p base hb hbase j x hx hj ho

end Report
end CodecBench
