import CodecBench.Loading
import CodecBench.Proofs.Comparison
import Mathlib.Data.List.Induction
import Mathlib.Data.List.Nodup
/-!
Run labels: what label a run gets depends on the plain labels up to its own, each a stem or a whole path.
Two runs get the same label exactly if a plain label that is taken is made, by the number that is added
to it, the plain label of an earlier run (`RunLabel.nodup_ofPaths_iff`). Runs with labels of their own
do not overwrite each other's times (`Grids.lastTime?_timings`).
-/

namespace CodecBench
namespace RunLabel

def plainLabel (stems : List String) (path : String) : String :=
  if 1 < stems.count (stem path) then path else stem path

def plainLabels (paths : List String) : List String := paths.map (plainLabel (paths.map stem))

def numbered (label : String) (index : Nat) : String := label ++ "#" ++ toString (index + 1)

/-- The labels that are taken once runs of these plain labels have theirs. -/
inductive Taken : List String → String → Prop
  | plain {plains : List String} {x : String} : x ∈ plains → Taken plains x
  | numbered {plains before : List String} {x : String} :
      before ++ [x] <+: plains → Taken before x → Taken plains (numbered x before.length)

/-- No number makes a taken label the plain label of an earlier run. -/
def Separable (plains : List String) : Prop :=
  ∀ before x, before ++ [x] <+: plains → Taken before x → numbered x before.length ∉ before

theorem toList_numbered (x : String) (n : Nat) :
    (numbered x n).toList = x.toList ++ '#' :: Nat.toDigits 10 (n + 1) := by
  simp [numbered, Nat.toString_eq_repr, Nat.toList_repr]

theorem index_eq_of_numbered_eq {x y : String} {m n : Nat} (h : numbered x m = numbered y n) :
    m = n := by
  -- Read from the right, a label starts with its digits and the first hash ends them.
  have hd : ∀ z k, (numbered z k).toList.reverse.takeWhile (· ≠ '#') =
      (Nat.toDigits 10 (k + 1)).reverse := by
    intro z k
    have hk : '#' ∉ (Nat.toDigits 10 (k + 1)).reverse := by
      simpa using notMem_toDigits (by decide) (k + 1)
    rw [toList_numbered, List.reverse_append, List.reverse_cons, List.append_assoc,
      List.singleton_append]
    exact takeWhile_append_cons hk _
  have hr : (Nat.toDigits 10 (m + 1)).reverse = (Nat.toDigits 10 (n + 1)).reverse := by
    rw [← hd x m, ← hd y n, h]
  have hi := congrArg (fun ds => Nat.ofDigitChars 10 ds 0) (List.reverse_injective hr)
  simpa using hi

theorem Taken.mono {plains after : List String} {x : String} (h : Taken plains x)
    (hp : plains <+: after) : Taken after x := by
  cases h with
  | plain hx => exact .plain (hp.subset hx)
  | numbered hb hx => exact .numbered (hb.trans hp) hx

theorem taken_concat {plains : List String} {x y : String} :
    Taken (plains ++ [y]) x ↔
      Taken plains x ∨ x = y ∨ Taken plains y ∧ x = numbered y plains.length := by
  constructor
  · intro h
    cases h with
    | plain hx =>
      rw [List.mem_append, List.mem_singleton] at hx
      obtain hx | hx := hx
      · exact .inl (.plain hx)
      · exact .inr (.inl hx)
    | numbered hb hx =>
      obtain he | hb := List.prefix_concat_iff.1 hb
      · obtain ⟨rfl, rfl⟩ := List.append_singleton_inj.1 he
        exact .inr (.inr ⟨hx, rfl⟩)
      · exact .inl (.numbered hb hx)
  · intro h'
    obtain h | rfl | ⟨h, rfl⟩ := h'
    · exact h.mono (List.prefix_append _ _)
    · exact .plain (by simp)
    · exact .numbered (List.prefix_refl _) h

theorem taken_numbered_iff {plains : List String} {x : String} :
    Taken plains (numbered x plains.length) ↔ numbered x plains.length ∈ plains := by
  constructor
  · intro h
    generalize hn : numbered x plains.length = label at h
    cases h with
    | plain hx => exact hx
    | numbered hb hx =>
      -- It would be the label of an earlier run, whose number is smaller.
      have hl := hb.length_le
      have hi := index_eq_of_numbered_eq hn
      simp at hl
      omega
  · exact .plain

theorem separable_concat {plains : List String} {x : String} :
    Separable (plains ++ [x]) ↔
      Separable plains ∧ (Taken plains x → numbered x plains.length ∉ plains) := by
  constructor
  · intro h
    exact ⟨fun before y hp => h before y (hp.trans (List.prefix_append _ _)),
      h plains x (List.prefix_refl _)⟩
  · intro h' before y hp
    obtain ⟨h, hx⟩ := h'
    obtain he | hp := List.prefix_concat_iff.1 hp
    · obtain ⟨rfl, rfl⟩ := List.append_singleton_inj.1 he
      exact hx
    · exact h before y hp

theorem chooseAll_concat (stems taken : List String) (index : Nat) (paths : List String)
    (path : String) :
    chooseAll stems taken index (paths ++ [path]) = chooseAll stems taken index paths ++
      [choose stems ((chooseAll stems taken index paths).reverse ++ taken) (index + paths.length)
        path] := by
  induction paths generalizing taken index with
  | nil => rfl
  | cons p rest ih =>
    simp [chooseAll, ih, Nat.add_assoc, Nat.add_comm 1]

theorem chooseAll_concat_eq (stems paths : List String) (path : String) :
    chooseAll stems [] 0 (paths ++ [path]) = chooseAll stems [] 0 paths ++
      [if plainLabel stems path ∈ chooseAll stems [] 0 paths then
        numbered (plainLabel stems path) paths.length else plainLabel stems path] := by
  rw [chooseAll_concat, choose]
  simp only [List.append_nil, List.mem_reverse, Nat.zero_add]
  rfl

theorem mem_chooseAll_iff {stems paths : List String} {x : String} :
    x ∈ chooseAll stems [] 0 paths ↔ Taken (paths.map (plainLabel stems)) x := by
  induction paths using List.reverseRecOn generalizing x with
  | nil =>
    constructor
    · intro h
      cases h
    · intro h
      cases h with
      | plain hx => exact hx
      | numbered hb => simp at hb
  | append_singleton paths path ih =>
    rw [chooseAll_concat_eq, List.map_append, List.map_singleton, taken_concat, List.mem_append,
      List.mem_singleton, List.length_map]
    -- As in `choose`: a plain label that is taken adds its numbered form, one that is not adds itself.
    by_cases h : plainLabel stems path ∈ chooseAll stems [] 0 paths
    · rw [if_pos h, ih]
      constructor
      · intro h'
        obtain hx | rfl := h'
        · exact .inl hx
        · exact .inr (.inr ⟨ih.1 h, rfl⟩)
      · intro h'
        obtain hx | rfl | ⟨-, rfl⟩ := h'
        · exact .inl hx
        · exact .inl (ih.1 h)
        · exact .inr rfl
    · rw [if_neg h, ih]
      constructor
      · intro h'
        obtain hx | rfl := h'
        · exact .inl hx
        · exact .inr (.inl rfl)
      · intro h'
        obtain hx | rfl | ⟨hx, -⟩ := h'
        · exact .inl hx
        · exact .inr rfl
        · exact absurd (ih.2 hx) h

theorem nodup_chooseAll_iff {stems paths : List String} :
    (chooseAll stems [] 0 paths).Nodup ↔ Separable (paths.map (plainLabel stems)) := by
  induction paths using List.reverseRecOn with
  | nil =>
    constructor
    · intro _ before x hp
      simp at hp
    · intro _
      exact List.nodup_nil
  | append_singleton paths path ih =>
    have hl : (paths.map (plainLabel stems)).length = paths.length := List.length_map _
    rw [chooseAll_concat_eq, List.map_append, List.map_singleton, separable_concat, ← ih,
      ← List.concat_eq_append, List.nodup_concat, and_comm, hl]
    refine and_congr_right fun _ => ?_
    by_cases h : plainLabel stems path ∈ chooseAll stems [] 0 paths
    · have ht : Taken (paths.map (plainLabel stems)) (numbered (plainLabel stems path) paths.length) ↔
          numbered (plainLabel stems path) paths.length ∈ paths.map (plainLabel stems) :=
        hl ▸ taken_numbered_iff
      rw [if_pos h, mem_chooseAll_iff, ht]
      exact ⟨fun hn _ => hn, fun hn => hn (mem_chooseAll_iff.1 h)⟩
    · rw [if_neg h]
      exact ⟨fun _ ht => absurd (mem_chooseAll_iff.2 ht) h, fun _ => h⟩

theorem nodup_ofPaths_iff {paths : List String} :
    (ofPaths paths).Nodup ↔ Separable (plainLabels paths) :=
  nodup_chooseAll_iff

/-- Without hashes in the plain labels all labels differ, however often a path is given. -/
theorem nodup_ofPaths_of_hash_notMem {paths : List String}
    (h : ∀ x ∈ plainLabels paths, '#' ∉ x.toList) : (ofPaths paths).Nodup := by
  rw [nodup_ofPaths_iff]
  intro before x hp _ hm
  have hx : numbered x before.length ∈ plainLabels paths := hp.subset (by simp [hm])
  exact h _ hx (by simp [toList_numbered])

end RunLabel

namespace Grids

theorem filter_runTimings {r : Run} {label : String} (h : r.label ≠ label) (kind : Kind)
    (subject : String) :
    (runTimings .runs kind r).filter (fun x => x.subject = subject ∧ x.variant = label) = [] := by
  simp [runTimings, List.filter_map, VariantSource.variant, Function.comp_def, h]

theorem filter_timings {runs : List Run} {label : String} (h : label ∉ runs.map (·.label))
    (kind : Kind) (subject : String) :
    (timings .runs kind runs).filter (fun x => x.subject = subject ∧ x.variant = label) = [] := by
  rw [timings, List.filter_flatMap, List.flatMap_eq_nil_iff]
  intro r hr
  refine filter_runTimings (fun e => h ?_) kind subject
  exact List.mem_map.2 ⟨r, hr, e⟩

theorem lastTime?_timings {runs : List Run} {r : Run} (hd : (runs.map (·.label)).Nodup) (hr : r ∈ runs)
    (kind : Kind) (subject : String) :
    Grid.lastTime? (timings .runs kind runs) subject r.label =
      Grid.lastTime? (timings .runs kind [r]) subject r.label := by
  obtain ⟨before, after, rfl⟩ := List.append_of_mem hr
  have hn : r.label ∉ before.map (·.label) ∧ r.label ∉ after.map (·.label) := by
    rw [List.map_append, List.map_cons, List.nodup_middle, List.nodup_cons, List.mem_append,
      not_or] at hd
    exact hd.1
  have ht : timings .runs kind (before ++ r :: after) =
      timings .runs kind before ++ (timings .runs kind [r] ++ timings .runs kind after) := by
    simp [timings]
  simp only [Grid.lastTime?, ht, List.filter_append, filter_timings hn.1, filter_timings hn.2,
    List.nil_append, List.append_nil]

end Grids

namespace Loading

theorem map_label_of_loadAll {find : String → Found} {runs : List (String × String)}
    {events : List Event} {inputs : List Input} (h : loadAll find runs = (events, .ok inputs)) :
    inputs.map (·.label) = runs.map Prod.snd := by
  induction runs generalizing events inputs with
  | nil =>
    cases h
    rfl
  | cons run rest ih =>
    obtain ⟨path, label⟩ := run
    rw [loadAll] at h
    cases hl : load find path with
    | error fault => simp [hl] at h
    | ok entries =>
      rw [hl] at h
      cases hr : loadAll find rest with
      | mk restEvents result =>
        rw [hr] at h
        cases result with
        | error fault => simp at h
        | ok others =>
          cases h
          simp [ih hr]

theorem map_label_of_paths {find : String → Found} {paths : List String} {events : List Event}
    {inputs : List Input} (h : loadAll find (paths.zip (RunLabel.ofPaths paths)) = (events, .ok inputs)) :
    inputs.map (·.label) = RunLabel.ofPaths paths := by
  rw [map_label_of_loadAll h]
  exact List.map_snd_zip (Nat.le_of_eq (RunLabel.length_ofPaths paths))

end Loading

namespace RunLabel

/-- When every run has a label of its own; then it keeps all its times among the others. -/
theorem runs_kept_apart (paths : List String) :
    (ofPaths paths).length = paths.length ∧
    ((ofPaths paths).Nodup ↔ Separable (plainLabels paths)) ∧
    (Separable (plainLabels paths) → ∀ (find : String → Found) events inputs,
      Loading.loadAll find (paths.zip (ofPaths paths)) = (events, .ok inputs) →
      ∀ i ∈ inputs, ∀ subject,
        (Grids.ofRuns .runs (inputs.map Input.run)).encode.get? subject i.label =
          (Grids.ofRuns .runs [i.run]).encode.get? subject i.label ∧
        (Grids.ofRuns .runs (inputs.map Input.run)).decode.get? subject i.label =
          (Grids.ofRuns .runs [i.run]).decode.get? subject i.label) := by
  refine ⟨length_ofPaths paths, nodup_ofPaths_iff, fun h find events inputs hl i hi subject => ?_⟩
  have hd : ((inputs.map Input.run).map (·.label)).Nodup := by
    rw [List.map_map]
    exact Loading.map_label_of_paths hl ▸ nodup_ofPaths_iff.2 h
  have hr : i.run ∈ inputs.map Input.run := List.mem_map_of_mem hi
  simp only [Grids.ofRuns_eq, Grid.get?_ofTimings]
  exact ⟨Grids.lastTime?_timings hd hr .encode subject, Grids.lastTime?_timings hd hr .decode subject⟩

/-- A stem that looks like a path with its position is given out twice. -/
theorem ofPaths_stem_numbered : ¬ (ofPaths ["a#3", "a", "a"]).Nodup := by
  decide

end RunLabel
end CodecBench
