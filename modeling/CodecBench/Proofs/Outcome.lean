import CodecBench.Proofs.Emission
import CodecBench.Proofs.Layout
/-!
What a command leaves behind, wherever it ends. Loading stops at the first path that cannot be loaded, with the
warnings up to that path and nothing printed (`Loading.loadAll_cases`). Past it everything is printed; after that
only the files of charts come to be, in the chart folder alone (`ChartPlan.lookup_writeAll`), and what can still go
wrong is that two of them have one name (`Outcome.effects_in_order`).
-/

namespace CodecBench
namespace Loading

def warnings (runs : List (String × String)) : List Event := runs.flatMap fun r => labelEvents r.1 r.2

def Loads (find : String → Found) (run : String × String) (i : Input) : Prop :=
  load find run.1 = .ok i.entries ∧ i.label = run.2

/-- Either all runs are loaded, or some first one is not. Runs after that one are not even warned about. -/
theorem loadAll_cases (find : String → Found) (runs : List (String × String)) :
    (∃ inputs, List.Forall₂ (Loads find) runs inputs ∧ loadAll find runs = (warnings runs, .ok inputs)) ∨
    ∃ before run after fault, runs = before ++ run :: after ∧
      (∀ r ∈ before, ∃ entries, load find r.1 = .ok entries) ∧ load find run.1 = .error fault ∧
      loadAll find runs = (warnings (before ++ [run]), .error fault) := by
  induction runs with
  | nil => exact .inl ⟨[], .nil, rfl⟩
  | cons run rest ih =>
    obtain ⟨path, label⟩ := run
    cases hl : load find path with
    | error fault =>
      exact .inr ⟨[], _, rest, fault, rfl, by simp, hl, by simp [loadAll, hl, warnings]⟩
    | ok entries =>
      obtain ⟨inputs, hi, hr⟩ | ⟨before, run, after, fault, rfl, hb, hf, hr⟩ := ih
      · exact .inl ⟨⟨label, entries⟩ :: inputs, .cons ⟨hl, rfl⟩ hi, by simp [loadAll, hl, hr, warnings]⟩
      · refine .inr ⟨(path, label) :: before, run, after, fault, rfl, ?_, hf, ?_⟩
        · simpa [hl] using hb
        · simp [loadAll, hl, hr, warnings]

theorem exists_load_of_loads {find : String → Found} {runs : List (String × String)} {inputs : List Input}
    (h : List.Forall₂ (Loads find) runs inputs) {path : String} (hp : path ∈ runs.map Prod.fst) :
    ∃ entries, load find path = .ok entries := by
  induction h with
  | nil => simp at hp
  | cons hl _ ih =>
    rw [List.map_cons, List.mem_cons] at hp
    obtain rfl | hp := hp
    · exact ⟨_, hl.1⟩
    · exact ih hp

theorem map_fst_zip_ofPaths (paths : List String) :
    (paths.zip (RunLabel.ofPaths paths)).map Prod.fst = paths :=
  List.map_fst_zip (Nat.le_of_eq (RunLabel.length_ofPaths paths).symm)

end Loading

namespace CommandLine
variable {c : CommandLine} {find : String → Found} {events : List Event}

theorem plan_of_error {fault : LoadFault}
    (h : Loading.loadAll find (c.inputs.zip (RunLabel.ofPaths c.inputs)) = (events, .error fault)) (terminal : Bool) :
    c.plan find terminal = ⟨events, some (.notLoaded c.input fault), "", none⟩ := by
  simp [plan, Loading.report, h]

theorem plan_of_ok {inputs : List Input}
    (h : Loading.loadAll find (c.inputs.zip (RunLabel.ofPaths c.inputs)) = (events, .ok inputs)) (terminal : Bool) :
    c.plan find terminal = ⟨events ++ Report.events c.settings inputs, none,
      (Report.ofInputs c.settings inputs).text c.perCategory (c.coloring.palette terminal),
      c.chartFolder.map fun folder => .ofReport folder (.ofInputs c.settings inputs)⟩ := by
  simp [plan, Loading.report, h]

end CommandLine

namespace Outcome

theorem ofPlan_of_charts (d : Disk) {p : Plan} {charts : ChartPlan} (h : p.charts = some charts) :
    (ofPlan d p).output = p.output ∧ (ofPlan d p).disk = (charts.execute d).1 ∧
      ((ofPlan d p).status = 0 ↔ ∃ event, (charts.execute d).2 = .ok event) := by
  cases he : charts.execute d with
  | mk after result => cases result <;> simp [ofPlan, h, he, status]

theorem ofPlan_ofReport (d : Disk) {p : Plan} {folder : String} {s : Settings} {inputs : List Input}
    (h : p.charts = some (.ofReport folder (.ofInputs s inputs))) :
    let o := ofPlan d p
    let r := Report.ofInputs s inputs
    (∀ q, o.disk.files.lookup q ≠ d.files.lookup q →
      ∃ made place, d.makeFolder folder = some (made, place) ∧
        ∃ x ∈ r.charts, q = place.inner (ChartFolder.fileName x) ∧
          o.disk.files.lookup q = some (ChartFolder.bytes x)) ∧
    ∀ made place, d.makeFolder folder = some (made, place) →
      (∀ x ∈ r.charts, made.Takes folder place (ChartFolder.fileName x)) →
      (o.status = 0 ↔ ∀ a ∈ r.reported, ∀ b ∈ r.reported,
        ChartFolder.fileStem a = ChartFolder.fileStem b → a = b) := by
  intro o r
  obtain ⟨-, hdisk, hstatus⟩ := ofPlan_of_charts d h
  refine ⟨fun q hq => ?_, fun made place hm ht => ?_⟩
  · rw [hdisk] at hq ⊢
    obtain hl | ⟨made, place, hm, file, hfile, hqf, hl⟩ := (ChartPlan.ofReport folder r).lookup_execute d q
    · exact absurd hl hq
    · obtain ⟨x, hx, rfl⟩ := ChartPlan.mem_files_ofReport hfile
      exact ⟨made, place, hm, x, hx, hqf, hl⟩
  · rw [hstatus, ← ChartPlan.refusal_ofReport folder]
    refine ChartPlan.execute_ok_iff hm fun file hfile => ?_
    obtain ⟨x, hx, rfl⟩ := ChartPlan.mem_files_ofReport hfile
    exact ht x hx

theorem ofPlan_usage (d : Disk) (p : Plan) : (ofPlan d p).usage = none := by
  unfold ofPlan
  split
  · rfl
  · split <;> rfl

/-- The effects of a command, in their order. If a path cannot be loaded, the first such path ends it: nothing is
printed, the disk is as it was, and only the runs up to that path have been warned about. Otherwise all tables are
printed, those of the categories first if they are asked for, whatever becomes of the charts. Files come to be in the
chart folder alone, each of them that of a chart; and if the folder can be written to, the command succeeds unless two
reported categories have one file name. -/
theorem effects_in_order {d : Disk} {env : String → Option String} {terminal : Bool} {args : List String}
    {c : CommandLine} (h : CommandLine.read env args = .ok c) :
    let o := runCommand d env terminal args
    let runs := c.inputs.zip (RunLabel.ofPaths c.inputs)
    o.usage = none ∧
    ((∃ path ∈ c.inputs, ∃ fault, Loading.load d.find path = .error fault) →
      ∃ before run after fault, runs = before ++ run :: after ∧
        (∀ r ∈ before, ∃ entries, Loading.load d.find r.1 = .ok entries) ∧
        Loading.load d.find run.1 = .error fault ∧
        o.failure = some (.notLoaded c.input fault) ∧ o.status = 1 ∧ o.output = "" ∧ o.disk = d ∧
        o.log = Loading.warnings (before ++ [run])) ∧
    ((∀ path ∈ c.inputs, ∃ entries, Loading.load d.find path = .ok entries) →
      ∃ inputs, List.Forall₂ (Loading.Loads d.find) runs inputs ∧
        let r := Report.ofInputs c.settings inputs
        let tables : List Table :=
          (if c.perCategory then r.categories.map fun k => ⟨some k.pairing.title, k.rows⟩ else []) ++
            [⟨none, r.overall.map Row.ofStanding⟩]
        r.tables c.perCategory = tables ∧
        o.output = String.join (tables.map fun t => (c.coloring.palette terminal).render t.spans) ∧
        (c.chartFolder = none → o.disk = d ∧ o.status = 0) ∧
        ∀ folder, c.chartFolder = some folder →
          (∀ q, o.disk.files.lookup q ≠ d.files.lookup q →
            ∃ made place, d.makeFolder folder = some (made, place) ∧
              ∃ x ∈ r.charts, q = place.inner (ChartFolder.fileName x) ∧
                o.disk.files.lookup q = some (ChartFolder.bytes x)) ∧
          ∀ made place, d.makeFolder folder = some (made, place) →
            (∀ x ∈ r.charts, made.Takes folder place (ChartFolder.fileName x)) →
            (o.status = 0 ↔ ∀ a ∈ r.reported, ∀ b ∈ r.reported,
              ChartFolder.fileStem a = ChartFolder.fileStem b → a = b)) := by
  intro o runs
  have ho : o = .ofPlan d (c.plan d.find terminal) := by
    simp [o, runCommand, h]
  have hpaths : runs.map Prod.fst = c.inputs := Loading.map_fst_zip_ofPaths c.inputs
  refine ⟨ho ▸ ofPlan_usage _ _, ?_⟩
  obtain ⟨inputs, hi, hl⟩ | ⟨before, run, after, fault, hruns, hb, hf, hl⟩ := Loading.loadAll_cases d.find runs
  · have hloads : ∀ path ∈ c.inputs, ∃ entries, Loading.load d.find path = .ok entries :=
      fun path hp => Loading.exists_load_of_loads hi (hpaths.symm ▸ hp)
    refine ⟨fun hfault => ?_, fun _ => ⟨inputs, hi, ?_⟩⟩
    · obtain ⟨path, hp, fault, hfault⟩ := hfault
      obtain ⟨entries, he⟩ := hloads path hp
      rw [hfault] at he
      cases he
    · intro r tables
      rw [CommandLine.plan_of_ok hl terminal] at ho
      have htext : r.text c.perCategory (c.coloring.palette terminal) =
          String.join (tables.map fun t => (c.coloring.palette terminal).render t.spans) :=
        Palette.render_flatMap _ _ _
      cases hc : c.chartFolder with
      | none =>
        rw [hc] at ho
        rw [ho]
        exact ⟨rfl, htext, fun _ => ⟨rfl, rfl⟩, nofun⟩
      | some folder =>
        rw [hc] at ho
        rw [ho]
        refine ⟨rfl, ((ofPlan_of_charts d) rfl).1.trans htext, nofun, fun f hf => ?_⟩
        obtain rfl := Option.some.inj hf
        exact ofPlan_ofReport d rfl
  · have hp : run.1 ∈ c.inputs := by
      rw [← hpaths, hruns]
      simp
    rw [CommandLine.plan_of_error hl] at ho
    refine ⟨fun _ => ⟨before, run, after, fault, hruns, hb, hf, ?_⟩, fun hloads => ?_⟩
    · rw [ho]
      exact ⟨rfl, rfl, rfl, rfl, rfl⟩
    · obtain ⟨entries, he⟩ := hloads run.1 hp
      rw [hf] at he
      cases he

/-- One of two other runs is missing: the first is found and has a chart folder to go to, but nothing is done. Where
all is found but two categories have one file name, the tables are printed and the command fails. -/
theorem effects_in_order_missing_and_refused :
    (let d := Disk.ofFiles [("a.json", "{}".toUTF8.toList)]
      let args := ["a.json", "--variant", "b.json", "--variant", "c.json", "--chart-dir", "out"]
      let o := runCommand d (fun _ => none) false args
      o.status = 1 ∧ o.output = "" ∧ o.disk = d ∧
        ∃ before run after, [("a.json", "a"), ("b.json", "b"), ("c.json", "c")] = before ++ run :: after ∧
          o.log = Loading.warnings (before ++ [run])) ∧
    (let entry (name : String) : String := "[\"" ++ name ++ "\",4,\"ns\"]"
      let document := "\x7b\"benchmarks\":[" ++ ",".intercalate
        (["a b/Encode_X", "a b/Decode_X", "a_b/Encode_X", "a_b/Decode_X"].map entry) ++ "]\x7d"
      let d := Disk.ofFiles [("a.json", document.toUTF8.toList)]
      let o := runCommand d (fun _ => none) false ["a.json", "--per-category", "--chart-dir", "out"]
      o.status ≠ 0 ∧ ∃ r : Report, r.reported = ["a b", "a_b"] ∧
        let tables : List Table :=
          (r.categories.map fun k => ⟨some k.pairing.title, k.rows⟩) ++ [⟨none, r.overall.map Row.ofStanding⟩]
        o.output = String.join (tables.map fun t => Palette.plain.render t.spans)) := by
  constructor
  · intro d args o
    have h : CommandLine.read (fun _ => none) args =
        .ok ⟨"a.json", ["b.json", "c.json"], none, none, some "out", false, .auto⟩ := by
      decide +kernel
    have hfault : ∃ fault, Loading.load d.find "b.json" = .error fault := by
      have hnone : (success? (Loading.load d.find "b.json")).isNone := by
        decide +kernel
      cases hl : Loading.load d.find "b.json" with
      | error fault => exact ⟨fault, rfl⟩
      | ok entries => simp [hl, success?] at hnone
    obtain ⟨before, run, after, fault, hruns, -, -, -, hs, ho, hd, hl⟩ :=
      (@effects_in_order d _ false _ _ h).2.1 ⟨"b.json", by decide, hfault⟩
    exact ⟨hs, ho, hd, before, run, after, hruns ▸ by decide +kernel, hl⟩
  · intro entry document d o
    have h : CommandLine.read (fun _ => none) ["a.json", "--per-category", "--chart-dir", "out"] =
        .ok ⟨"a.json", [], none, none, some "out", true, .auto⟩ := by
      decide +kernel
    let es : List Entry :=
      ["a b/Encode_X", "a b/Decode_X", "a_b/Encode_X", "a_b/Decode_X"].map fun name =>
        ⟨name, some 4.0, some "ns", none, none⟩
    have hload : Loading.load d.find "a.json" = .ok es := success?_eq_some_iff.1 (by decide +kernel)
    obtain ⟨inputs, hi, -, ho, -, hcharts⟩ :=
      (@effects_in_order d _ false _ _ h).2.2 fun path hp => ⟨es, List.mem_singleton.1 hp ▸ hload⟩
    have hinputs : inputs = [⟨"a", es⟩] := by
      have hruns : ["a.json"].zip (RunLabel.ofPaths ["a.json"]) = [("a.json", "a")] := by
        decide +kernel
      change List.Forall₂ (Loading.Loads d.find) (["a.json"].zip (RunLabel.ofPaths ["a.json"])) inputs at hi
      rw [hruns] at hi
      obtain ⟨i, _, hl, hnil, rfl⟩ := List.forall₂_cons_left_iff.1 hi
      rw [List.forall₂_nil_left_iff.1 hnil]
      obtain ⟨label, entries⟩ := i
      obtain rfl : label = "a" := hl.2
      obtain rfl : es = entries := Except.ok.inj (hload.symm.trans hl.1)
      rfl
    subst hinputs
    let r := Report.ofInputs ⟨.first, "SonicDyn", .algorithms, true⟩ [⟨"a", es⟩]
    have hr : r.reported = ["a b", "a_b"] := by
      decide +kernel
    have hm : d.makeFolder "out" = some ((d.makeFolder "out").getD (d, .here)) := by
      have hsome : (d.makeFolder "out").isSome := by
        decide +kernel
      cases he : d.makeFolder "out" with
      | none => simp [he] at hsome
      | some made => rfl
    have ht : ∀ name ∈ r.charts.map ChartFolder.fileName,
        ((d.makeFolder "out").getD (d, .here)).1.Takes "out" ((d.makeFolder "out").getD (d, .here)).2 name := by
      decide +kernel
    have hmem : ∀ a ∈ ["a b", "a_b"], a ∈ r.reported := by simp [hr]
    refine ⟨fun hs => ?_, r, hr, ho⟩
    have hab := ((hcharts "out" rfl).2 _ _ hm fun x hx => ht _ (List.mem_map_of_mem hx)).1 hs
      "a b" (hmem _ (by decide)) "a_b" (hmem _ (by decide)) (by decide +kernel)
    exact absurd hab (by decide)

end Outcome
end CodecBench
