import CodecBench.Disk
import Mathlib.Data.List.Basic
/-!
Files in folders. A name without slashes leads from a folder to the file of that name in it, whether the path of
the folder ends in a slash or not (`Path.names_join`, `Disk.place?_join`). Writing a file changes what is at its
own place and at no other (`Disk.lookup_write`).
-/

namespace CodecBench

/-- A name that stands for itself on a path. -/
structure Path.IsName (name : String) : Prop where
  slash_notMem : '/' ∉ name.toList
  ne_empty : name ≠ ""
  ne_dot : name ≠ "."
  ne_dots : name ≠ ".."

namespace Path
variable {folder name : String}

/-- The names of a joined path, the empty ones included: the slash at the end of a folder opens a name that is
not there yet. -/
theorem splitOn_join (folder : String) (h : IsName name) :
    (folder = "" ∧ (join folder name).toList.splitOn '/' = [name.toList]) ∨
    (∃ xs, folder.toList.splitOn '/' = xs ++ [[]] ∧
      (join folder name).toList.splitOn '/' = xs ++ [name.toList]) ∨
    (join folder name).toList.splitOn '/' = folder.toList.splitOn '/' ++ [name.toList] := by
  have hn : name.toList.splitOn '/' = [name.toList] := List.splitOn_eq_singleton h.slash_notMem
  by_cases h0 : folder = ""
  · exact .inl ⟨h0, by simp [join, h0, hn]⟩
  · by_cases hl : folder.toList.getLast? = some '/'
    · obtain ⟨xs, hxs⟩ := List.getLast?_eq_some_iff.1 hl
      refine .inr (.inl ⟨xs.splitOn '/', ?_, ?_⟩)
      · rw [hxs, List.splitOn_append_cons_self, List.splitOn_nil]
      · rw [join, if_pos (.inr hl), String.toList_append, hxs, List.append_assoc, List.singleton_append,
          List.splitOn_append_cons_self, hn]
    · refine .inr (.inr ?_)
      have hj : (join folder name).toList = folder.toList ++ '/' :: name.toList := by
        simp [join, h0, hl, String.toList_append]
      rw [hj, List.splitOn_append_cons_self, hn]

theorem names_join (h : IsName name) :
    names (join folder name).toList = names folder.toList ++ [name.toList] := by
  have h0 : name.toList ≠ [] := fun e => h.ne_empty (String.toList_eq_nil_iff.1 e)
  have hd : name.toList ≠ ['.'] := fun e => h.ne_dot (String.toList_inj.1 e)
  unfold names
  obtain ⟨rfl, hs⟩ | ⟨xs, hf, hs⟩ | hs := splitOn_join folder h
  · simp [hs, h0, hd]
  · simp [hs, hf, h0, hd]
  · simp [hs, h0, hd]

end Path

theorem Place.inner_right_inj {p : Place} {a b : String} : p.inner a = p.inner b ↔ a = b := by
  simp [inner]

namespace Disk

theorem place?_congr {d d' : Disk} (h : d.folders = d'.folders) (path : String) :
    d.place? path = d'.place? path := by
  obtain ⟨files, folders⟩ := d
  obtain ⟨files', folders'⟩ := d'
  cases h
  rfl

theorem start_join {folder : String} (h : folder ≠ "") (name : String) :
    Place.start (Path.join folder name) = Place.start folder := by
  have hh : (Path.join folder name).toList.head? = folder.toList.head? := by
    cases hf : folder.toList with
    | nil => exact absurd (String.toList_eq_nil_iff.1 hf) h
    | cons c cs =>
      unfold Path.join
      split <;> simp [String.toList_append, hf]
  rw [Place.start, Place.start, hh]

theorem step_name {d : Disk} {p : Place} {name : String} (hp : d.isFolder p) (h : Path.IsName name) :
    d.step p name = some (p.inner name) := by
  simp [step, hp, h.ne_empty, h.ne_dot, h.ne_dots]

theorem place?_join {d : Disk} {folder name : String} {p : Place} (hp : d.place? folder = some p)
    (hf : d.isFolder p) (h : Path.IsName name) (hu : Path.isUsable (Path.join folder name)) :
    d.place? (Path.join folder name) = some (p.inner name) := by
  unfold place? at hp
  split at hp
  · rename_i h0
    have hj : Path.join folder name ≠ "" := by
      unfold Path.join
      split <;> simp [h0.1]
    rw [place?, if_pos ⟨hj, hu⟩, start_join h0.1]
    obtain ⟨he, -⟩ | ⟨xs, hx, hs⟩ | hs := Path.splitOn_join folder h
    · exact absurd he h0.1
    · rw [steps, hx, List.map_append, List.foldlM_append] at hp
      obtain ⟨q, hq, hqp⟩ := Option.bind_eq_some_iff.1 hp
      have hqf : d.step q "" = some p := by simpa using hqp
      -- The step over the slash stays where it is.
      have hpq : q = p := by
        unfold step at hqf
        split at hqf
        · simpa using hqf
        · cases hqf
      rw [steps, hs, List.map_append, List.foldlM_append, hq, hpq]
      simpa using step_name hf h
    · rw [steps, hs, List.map_append, List.foldlM_append]
      change List.foldlM d.step (Place.start folder) (steps folder) = some p at hp
      rw [← steps, hp]
      simpa using step_name hf h
  · cases hp

theorem place?_of_makeFolder {before d : Disk} {folder : String} {p : Place}
    (h : before.makeFolder folder = some (d, p)) : d.place? folder = some p ∧ d.isFolder p := by
  unfold makeFolder at h
  simp only [Option.bind_eq_bind, Option.bind_eq_some_iff, guard] at h
  obtain ⟨_, -, made, -, q, hq, _, hf, hm⟩ := h
  split at hf
  · rename_i hqf
    obtain ⟨rfl, rfl⟩ := Prod.mk.inj (Option.some.inj hm)
    exact ⟨hq, hqf⟩
  · cases hf

theorem lookup_filter_ne (files : List (Place × Bytes)) (p q : Place) :
    (files.filter fun f => f.1 ≠ p).lookup q = if q = p then none else files.lookup q := by
  induction files with
  | nil => simp
  | cons f files ih =>
    obtain ⟨r, bytes⟩ := f
    by_cases hq : q = r
    · subst hq
      by_cases hp : q = p
      · simpa [hp] using ih
      · simp [hp]
    · have hqr : (q == r) = false := beq_false_of_ne hq
      by_cases hr : r = p
      · subst hr
        simpa [hq, List.lookup_cons, hqr] using ih
      · simpa [hr, List.lookup_cons, hqr] using ih

theorem lookup_write {d d' : Disk} {p : Place} {bytes : Bytes} (h : d.write p bytes = some d') (q : Place) :
    d'.files.lookup q = if q = p then some bytes else d.files.lookup q := by
  unfold write at h
  split at h
  · cases h
  · cases h
    rw [List.lookup_append, lookup_filter_ne]
    by_cases hq : q = p
    · simp [hq]
    · simp [hq, List.lookup_cons, beq_false_of_ne hq]

theorem folders_of_write {d d' : Disk} {p : Place} {bytes : Bytes} (h : d.write p bytes = some d') :
    d'.folders = d.folders := by
  unfold write at h
  split at h
  · cases h
  · cases h
    rfl

theorem exists_write {d : Disk} {p : Place} (hf : d.isFolder p = false) (hp : p.fits) (bytes : Bytes) :
    ∃ d', d.write p bytes = some d' := by
  simp [write, hf, hp]

theorem files_of_openStep {s s' : Disk × Place} {name : String} (h : openStep s name = some s') :
    s'.1.files = s.1.files := by
  rw [openStep, Option.bind_eq_some_iff] at h
  obtain ⟨p, -, hp⟩ := h
  split at hp
  · cases hp
    rfl
  · split at hp
    · cases hp
      rfl
    · cases hp

theorem files_of_openSteps {names : List String} {s s' : Disk × Place} (h : names.foldlM openStep s = some s') :
    s'.1.files = s.1.files := by
  induction names generalizing s with
  | nil =>
    cases h
    rfl
  | cons name names ih =>
    rw [List.foldlM_cons, Option.bind_eq_bind, Option.bind_eq_some_iff] at h
    obtain ⟨t, ht, hs⟩ := h
    exact (ih hs).trans (files_of_openStep ht)

theorem files_of_makeFolder {before d : Disk} {folder : String} {p : Place}
    (h : before.makeFolder folder = some (d, p)) : d.files = before.files := by
  unfold makeFolder at h
  simp only [Option.bind_eq_bind, Option.bind_eq_some_iff, guard] at h
  obtain ⟨_, -, made, hmade, q, -, _, -, hm⟩ := h
  obtain ⟨rfl, -⟩ := Prod.mk.inj (Option.some.inj hm)
  exact files_of_openSteps hmade

end Disk
end CodecBench
