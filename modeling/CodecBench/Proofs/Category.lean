import CodecBench.Category
import CodecBench.Proofs.Roster
import Mathlib.Algebra.GroupWithZero.Nat
/-!
Collecting categories is a stable partition: the categories are those of the measured measurements,
first-seen first, and each has its own encoding and decoding measurements in their order
(`Category.collect_eq`). So every such measurement has one place, and no other has any
(`Category.partitioned_exactly`).
-/

namespace CodecBench

theorem Kind.isMeasured_iff {kind : Kind} : kind.isMeasured ↔ kind = .encode ∨ kind = .decode := by
  cases kind <;> simp [isMeasured]

namespace Category

def measured (ms : List Measurement) : List Measurement := ms.filter fun m => m.kind.isMeasured

def names (ms : List Measurement) : List String := ((measured ms).map (·.category)).eraseDups

def side (kind : Kind) (name : String) (ms : List Measurement) : List Measurement :=
  ms.filter fun m => m.category = name ∧ m.kind = kind

def select (ms : List Measurement) (name : String) : Category :=
  ⟨name, side .encode name ms, side .decode name ms⟩

theorem mem_measured_iff {ms : List Measurement} {m : Measurement} :
    m ∈ measured ms ↔ m ∈ ms ∧ (m.kind = .encode ∨ m.kind = .decode) := by
  rw [measured, List.mem_filter, Kind.isMeasured_iff]

theorem mem_side_iff {kind : Kind} {name : String} {ms : List Measurement} {m : Measurement} :
    m ∈ side kind name ms ↔ m ∈ ms ∧ m.category = name ∧ m.kind = kind := by
  simp [side]

theorem foldl_add (c : Category) (ms : List Measurement) :
    ms.foldl add c = ⟨c.name, c.encode ++ ms.filter fun m => m.kind = .encode,
      c.decode ++ ms.filter fun m => m.kind = .decode⟩ := by
  induction ms generalizing c with
  | nil => simp
  | cons m ms ih =>
    rw [List.foldl_cons, ih]
    cases h : m.kind <;> simp [add, h]

theorem foldl_file_eq (name : String) {ms : List Measurement} (h : ∀ m ∈ ms, m.category = name) :
    ms.foldl (fun c? m => some ((c?.getD ⟨m.category, [], []⟩).add m)) none =
      if ms = [] then none else some (ms.foldl add ⟨name, [], []⟩) := by
  induction ms using List.reverseRecOn with
  | nil => rfl
  | append_singleton ms m ih =>
    have hms : ∀ n ∈ ms, n.category = name := fun n hn => h n (by simp [hn])
    have hm : m.category = name := h m (by simp)
    rw [List.foldl_append, ih hms, List.foldl_append]
    by_cases he : ms = []
    · simp [he, hm]
    · simp [he]

theorem collect_eq_values (ms : List Measurement) :
    collect ms = (Roster.enterAll (·.category)
      (fun m c? => (c?.getD ⟨m.category, [], []⟩).add m) (measured ms)).values := by
  rw [collect, Roster.enterAll, measured, List.foldl_filter]
  rfl

theorem filter_measured (name : String) (kind : Kind) (h : kind.isMeasured) (ms : List Measurement) :
    (((measured ms).filter fun m => m.category = name).filter fun m => m.kind = kind) =
      side kind name ms := by
  rw [measured, List.filter_filter, List.filter_filter]
  refine List.filter_congr fun m _ => ?_
  by_cases hk : m.kind = kind
  · simp [hk, h]
  · simp [hk]

theorem collect_eq (ms : List Measurement) : collect ms = (names ms).map (select ms) := by
  rw [collect_eq_values, Roster.values, Roster.entries_eq_map (g := select ms), List.map_map,
    Roster.keys_enterAll]
  · rfl
  · intro name hname
    rw [Roster.keys_enterAll, List.mem_eraseDups] at hname
    obtain ⟨m, hm, rfl⟩ := List.mem_map.1 hname
    have hne : (measured ms).filter (fun n => n.category = m.category) ≠ [] :=
      List.ne_nil_of_mem (List.mem_filter.2 ⟨hm, by simp⟩)
    rw [Roster.get?_enterAll, foldl_file_eq m.category (by simp), if_neg hne, foldl_add,
      filter_measured _ _ rfl, filter_measured _ _ rfl]
    rfl

theorem map_name_collect (ms : List Measurement) : (collect ms).map (·.name) = names ms := by
  rw [collect_eq, List.map_map]
  exact List.map_id _

theorem mem_collect_iff {ms : List Measurement} {c : Category} :
    c ∈ collect ms ↔ (∃ m ∈ measured ms, m.category = c.name) ∧ c = select ms c.name := by
  rw [collect_eq, List.mem_map]
  constructor
  · intro h
    obtain ⟨name, hname, rfl⟩ := h
    rw [names, List.mem_eraseDups] at hname
    exact ⟨List.mem_map.1 hname, rfl⟩
  · intro h
    obtain ⟨hm, hc⟩ := h
    exact ⟨c.name, List.mem_eraseDups.2 (List.mem_map.2 hm), hc.symm⟩

theorem sides_perm (ms : List Measurement) (name : String) :
    (side .encode name ms ++ side .decode name ms).Perm ((measured ms).filter fun m => m.category = name) := by
  have hd : (((measured ms).filter fun m => m.category = name).filter fun m => m.kind = .decode) =
      ((measured ms).filter fun m => m.category = name).filter fun m => !decide (m.kind = .encode) := by
    refine List.filter_congr fun m hm => ?_
    obtain ⟨-, hk | hk⟩ := mem_measured_iff.1 (List.mem_filter.1 hm).1
    · simp [hk]
    · simp [hk]
  rw [← filter_measured name .encode rfl, ← filter_measured name .decode rfl, hd]
  exact List.filter_append_perm _ _

theorem flatMap_collect_perm (ms : List Measurement) :
    ((collect ms).flatMap fun c => c.encode ++ c.decode).Perm (measured ms) := by
  rw [collect_eq, List.flatMap_map]
  refine (List.Perm.flatMap_left _ fun name _ => sides_perm ms name).trans ?_
  refine flatMap_filter_key_perm (nodup_eraseDups _) fun m hm => ?_
  exact List.mem_eraseDups.2 (List.mem_map_of_mem hm)

theorem size_ne_zero_of_mem_collect {ms : List Measurement} {c : Category} (h : c ∈ collect ms) : c.size ≠ 0 := by
  obtain ⟨⟨m, hm, hname⟩, hc⟩ := mem_collect_iff.1 h
  have hperm : (c.encode ++ c.decode).Perm ((measured ms).filter fun m => m.category = c.name) := by
    rw [hc]
    exact sides_perm ms c.name
  have hmem : m ∈ c.encode ++ c.decode := hperm.mem_iff.2 (List.mem_filter.2 ⟨hm, by simpa using hname⟩)
  rw [size, ← List.length_append]
  exact Nat.ne_of_gt (List.length_pos_of_mem hmem)

theorem mem_side_of_mem_collect_iff {ms : List Measurement} {c : Category} (h : c ∈ collect ms) {m : Measurement} :
    (m ∈ c.encode ↔ m ∈ ms ∧ m.category = c.name ∧ m.kind = .encode) ∧
      (m ∈ c.decode ↔ m ∈ ms ∧ m.category = c.name ∧ m.kind = .decode) := by
  rw [(mem_collect_iff.1 h).2]
  exact ⟨mem_side_iff, mem_side_iff⟩

theorem exists_home {ms : List Measurement} {m : Measurement} (hm : m ∈ ms)
    (hk : m.kind = .encode ∨ m.kind = .decode) :
    ∃ c ∈ collect ms, Xor (m ∈ c.encode) (m ∈ c.decode) ∧
      ∀ d ∈ collect ms, m ∈ d.encode ∨ m ∈ d.decode → d = c := by
  have hc : select ms m.category ∈ collect ms :=
    mem_collect_iff.2 ⟨⟨m, mem_measured_iff.2 ⟨hm, hk⟩, rfl⟩, rfl⟩
  obtain ⟨he, hd⟩ := mem_side_of_mem_collect_iff hc (m := m)
  refine ⟨_, hc, ?_, fun d hdc hmd => ?_⟩
  · obtain hk | hk := hk
    · exact .inl ⟨he.2 ⟨hm, rfl, hk⟩, fun h => by simpa [hk] using (hd.1 h).2.2⟩
    · exact .inr ⟨hd.2 ⟨hm, rfl, hk⟩, fun h => by simpa [hk] using (he.1 h).2.2⟩
  · obtain ⟨hde, hdd⟩ := mem_side_of_mem_collect_iff hdc (m := m)
    have hname : m.category = d.name := hmd.elim (fun h => (hde.1 h).2.1) fun h => (hdd.1 h).2.1
    rw [hname, ← (mem_collect_iff.1 hdc).2]

theorem collect_measured (ms : List Measurement) : collect (measured ms) = collect ms := by
  have hm : measured (measured ms) = measured ms := by simp [measured]
  rw [collect_eq_values, collect_eq_values, hm]

/-- Collecting parts the encoding and decoding measurements by category and kind: categories stand in the order of
their first measurements, each side keeps the order of its measurements, and other kinds have no part in it. -/
theorem partitioned_exactly (ms : List Measurement) :
    ((collect ms).map (·.name)).Nodup ∧
    ((collect ms).map (·.name)).Pairwise (fun a b =>
      ((measured ms).map (·.category)).idxOf a < ((measured ms).map (·.category)).idxOf b) ∧
    (∀ c ∈ collect ms, c.size ≠ 0 ∧
      c.encode = ms.filter (fun m => m.category = c.name ∧ m.kind = .encode) ∧
      c.decode = ms.filter (fun m => m.category = c.name ∧ m.kind = .decode)) ∧
    (∀ m ∈ ms, m.kind = .encode ∨ m.kind = .decode → ∃ c ∈ collect ms, Xor (m ∈ c.encode) (m ∈ c.decode) ∧
      ∀ d ∈ collect ms, m ∈ d.encode ∨ m ∈ d.decode → d = c) ∧
    ((collect ms).flatMap fun c => c.encode ++ c.decode).Perm (measured ms) ∧
    ((collect ms).map size).sum = (measured ms).length ∧
    (∀ c ∈ collect ms, ∀ m ∈ c.encode ++ c.decode, m.kind = .encode ∨ m.kind = .decode) ∧
    collect (measured ms) = collect ms := by
  refine ⟨?_, ?_, fun c hc => ⟨size_ne_zero_of_mem_collect hc, ?_⟩, fun m hm hk => exists_home hm hk,
    flatMap_collect_perm ms, ?_, fun c hc m hm => ?_, collect_measured ms⟩
  · rw [map_name_collect]
    exact nodup_eraseDups _
  · rw [map_name_collect]
    exact pairwise_idxOf_eraseDups _
  · rw [(mem_collect_iff.1 hc).2]
    exact ⟨rfl, rfl⟩
  · rw [← (flatMap_collect_perm ms).length_eq, List.length_flatMap]
    simp only [List.length_append]
    rfl
  · exact (mem_measured_iff.1 ((flatMap_collect_perm ms).subset (List.mem_flatMap_of_mem hc hm))).2

/-- Two categories in turn, one measurement given twice and one of another kind. -/
theorem partitioned_exactly_interleaved :
    let m (category : String) (kind : Kind) (t : Float) : Measurement := ⟨category, kind, "X", t, "ns", none⟩
    let ms := [m "b" .encode 1.0, m "c" (.other "Compile") 2.0, m "a" .decode 3.0, m "b" .encode 1.0, m "b" .decode 4.0]
    ((collect ms).map size).sum = 4 ∧ ∃ c ∈ collect ms, c.encode = [m "b" .encode 1.0, m "b" .encode 1.0] ∧
      ∀ d ∈ collect ms, m "b" .encode 1.0 ∈ d.encode ∨ m "b" .encode 1.0 ∈ d.decode → d = c := by
  intro m ms
  obtain ⟨-, -, hsides, hhome, -, hsize, -, -⟩ := partitioned_exactly ms
  obtain ⟨c, hc, hm, hunique⟩ := hhome (m "b" .encode 1.0) (by simp [ms]) (.inl rfl)
  obtain ⟨-, he, hd⟩ := hsides c hc
  have hname : c.name = "b" := by
    obtain ⟨h, -⟩ | ⟨h, -⟩ := hm
    · rw [he] at h
      simpa [m, eq_comm] using (List.mem_filter.1 h).2
    · rw [hd] at h
      simpa [m, eq_comm] using (List.mem_filter.1 h).2
  exact ⟨hsize, c, hc, by rw [he, hname]; rfl, hunique⟩

end Category
end CodecBench
