import CodecBench.Outcome
import CodecBench.Proofs.ChartFolder
import CodecBench.Proofs.ChartValue
import CodecBench.Proofs.Disk
/-!
Charts offered one after the other to a folder on a disk, the refused ones included. After every run each path has
the file of the first chart that was offered for it, what is on record is what is on the disk, and the rest of the
disk is as before (`ChartFolder.Holds`, `ChartFolder.first_charts_kept`).
-/

namespace CodecBench

def Disk.create (d : Disk) (path : String) (bytes : Bytes) : Option Disk :=
  (d.place? path).bind fun p => d.write p bytes

/-- Whether a folder at a place takes a file: its path can be asked for, and no folder is in the way. -/
def Disk.Takes (d : Disk) (folder : String) (place : Place) (name : String) : Prop :=
  Path.isUsable (Path.join folder name) ∧ d.isFolder (place.inner name) = false ∧ (place.inner name).fits

instance (d : Disk) (folder : String) (place : Place) (name : String) :
    Decidable (d.Takes folder place name) :=
  inferInstanceAs (Decidable (_ ∧ _ ∧ _))

theorem Disk.exists_create {d : Disk} {folder name : String} {place : Place} (hp : d.place? folder = some place)
    (hf : d.isFolder place) (hn : Path.IsName name) (h : d.Takes folder place name) (bytes : Bytes) :
    ∃ d', d.create (Path.join folder name) bytes = some d' ∧ d'.folders = d.folders ∧
      ∀ q, d'.files.lookup q = if q = place.inner name then some bytes else d.files.lookup q := by
  obtain ⟨hu, hfree, hfits⟩ := h
  obtain ⟨d', hd'⟩ := exists_write hfree hfits bytes
  refine ⟨d', ?_, folders_of_write hd', lookup_write hd'⟩
  rw [create, place?_join hp hf hn hu, Option.bind_some, hd']

theorem Disk.find_join {d : Disk} {folder name : String} {place : Place} (hp : d.place? folder = some place)
    (hf : d.isFolder place) (hn : Path.IsName name) (h : d.Takes folder place name) {bytes : Bytes}
    (hb : d.files.lookup (place.inner name) = some bytes) :
    d.find (Path.join folder name) = .content bytes := by
  rw [find, place?_join hp hf hn h.1]
  simp [h.2.1, hb]

namespace ChartFolder

def bytes (c : Chart) : Bytes := (content c).toUTF8.toList

theorem isToldBy_bytes (c : Chart) : c.IsToldBy (bytes c) := by
  rw [bytes, toList_toUTF8]
  exact isToldBy_content c

/-- A file has the path of a chart, and its text is a document of this chart alone. -/
def IsFileOf (folder : String) (c : Chart) (f : String × String) : Prop :=
  f.1 = Path.join folder (fileName c) ∧ c.IsToldBy f.2.toUTF8.toList

theorem isFileOf_file (folder : String) (c : Chart) : IsFileOf folder c (file folder c) := ⟨rfl, isToldBy_bytes c⟩

theorem forall₂_isFileOf {α : Type} (folder : String) (chart : α → Chart) (xs : List α) :
    List.Forall₂ (fun x => IsFileOf folder (chart x)) xs (xs.map fun x => file folder (chart x)) := by
  rw [List.forall₂_map_right_iff, List.forall₂_same]
  exact fun x _ => isFileOf_file folder (chart x)

/-- Offers a chart to a folder on a disk. It is written unless its path is taken; a refused chart changes
nothing. -/
def offer (s : ChartFolder × Disk) (c : Chart) : Option (ChartFolder × Disk) :=
  match s.1.emit c with
  | .error _ => some s
  | .ok f => (s.2.create (s.1.path c) (bytes c)).map fun d => (f, d)

def offerAll (s : ChartFolder × Disk) (cs : List Chart) : Option (ChartFolder × Disk) := cs.foldlM offer s

def firstAt? (folder : String) (cs : List Chart) (path : String) : Option Chart :=
  cs.find? fun c => Path.join folder (fileName c) = path

theorem toList_fileName_ends (c : Chart) : ∃ front, fileName c = front ++ ".json" := by
  cases c with
  | category b => exact ⟨_, rfl⟩
  | overall b => exact ⟨_, rfl⟩
  | comparison g => exact ⟨_, rfl⟩

theorem slash_notMem_fileStem (id : String) : '/' ∉ (fileStem id).toList := by
  have hslash : isAlphanumeric '/' = false := by decide +kernel
  rw [toList_fileStem, List.mem_map]
  intro h
  obtain ⟨c, -, hc⟩ := h
  by_cases hc' : isAlphanumeric c || c == '-' || c == '_' || c == '.'
  · rw [if_pos hc'] at hc
    subst hc
    simp [hslash] at hc'
  · rw [if_neg hc'] at hc
    exact absurd hc (by decide)

/-- No id leads out of the folder, or into another one below it. -/
theorem isName_fileName (c : Chart) : Path.IsName (fileName c) := by
  obtain ⟨front, hf⟩ := toList_fileName_ends c
  have hne : ∀ s : String, s.toList.length < 5 → fileName c ≠ s := by
    intro s hs h
    have hend : ".json".toList.length = 5 := by decide
    rw [← h, hf, String.toList_append, List.length_append, hend] at hs
    omega
  refine ⟨?_, hne "" (by decide), hne "." (by decide), hne ".." (by decide)⟩
  cases c <;> simp [fileName, String.toList_append, slash_notMem_fileStem]

/-- What a folder and its disk hold once charts have been offered: on both the first chart of each path. -/
structure Holds (folder : String) (before : Disk) (place : Place) (cs : List Chart)
    (s : ChartFolder × Disk) : Prop where
  folder_eq : s.1.folder = folder
  keys : s.1.written.keys = (cs.map fun c => Path.join folder (fileName c)).eraseDups
  written : ∀ path, s.1.written.get? path = firstAt? folder cs path
  folders : s.2.folders = before.folders
  stored : ∀ q, s.2.files.lookup q =
    ((cs.find? fun c => place.inner (fileName c) = q).map bytes).or (before.files.lookup q)

section Run
variable {folder : String} {before : Disk} {place : Place} {cs : List Chart} {s : ChartFolder × Disk} {c : Chart}

theorem holds_nil : Holds folder before place [] (empty folder, before) :=
  ⟨rfl, rfl, fun _ => rfl, rfl, fun _ => rfl⟩

theorem Holds.path_eq (h : Holds folder before place cs s) (c : Chart) :
    s.1.path c = Path.join folder (fileName c) := by
  rw [path, h.folder_eq]

theorem Holds.mem_keys_iff (h : Holds folder before place cs s) :
    s.1.path c ∈ s.1.written.keys ↔ ∃ d ∈ cs, fileName d = fileName c := by
  simp [h.keys, h.path_eq, Path.join_right_inj]

theorem Holds.refused_iff (h : Holds folder before place cs s) :
    (∃ refusal, s.1.emit c = .error refusal) ↔ ∃ d ∈ cs, fileName d = fileName c := by
  rw [← h.mem_keys_iff]
  obtain ⟨hn, he⟩ | ⟨previous, hp, he⟩ := s.1.emit_cases c
  · simp [he, hn]
  · have hk : s.1.path c ∈ s.1.written.keys := List.mem_map_of_mem hp
    simp [he, hk]

theorem Holds.takes (h : Holds folder before place cs s) (hp : before.place? folder = some place)
    (hf : before.isFolder place) {name : String} (hw : before.Takes folder place name) :
    s.2.place? folder = some place ∧ s.2.isFolder place ∧ s.2.Takes folder place name := by
  have hfree : ∀ p, s.2.isFolder p = before.isFolder p := fun p => by
    rw [Disk.isFolder, Disk.isFolder, h.folders]
  exact ⟨(Disk.place?_congr h.folders folder).trans hp, (hfree place).trans hf, hw.1, (hfree _).trans hw.2.1,
    hw.2.2⟩

theorem Holds.offer_of_taken (h : Holds folder before place cs s) (ht : ∃ d ∈ cs, fileName d = fileName c) :
    offer s c = some s ∧ Holds folder before place (cs ++ [c]) s := by
  obtain ⟨refusal, hr⟩ := h.refused_iff.2 ht
  have hpath : Path.join folder (fileName c) ∈ cs.map fun c => Path.join folder (fileName c) := by
    simpa [Path.join_right_inj] using ht
  have hplace : place.inner (fileName c) ∈ cs.map fun c => place.inner (fileName c) := by
    simpa [Place.inner_right_inj] using ht
  refine ⟨by rw [offer, hr], h.folder_eq, ?_, fun path => ?_, h.folders, fun q => ?_⟩
  · rw [List.map_append, List.map_singleton, eraseDups_concat, if_pos hpath, h.keys]
  · rw [firstAt?, find?_key_concat fun c => Path.join folder (fileName c), if_neg fun hn => hn.2 hpath, h.written,
      firstAt?]
  · rw [find?_key_concat fun c => place.inner (fileName c), if_neg fun hn => hn.2 hplace, h.stored]

theorem Holds.offer_of_new (h : Holds folder before place cs s) (hp : before.place? folder = some place)
    (hf : before.isFolder place) (hw : before.Takes folder place (fileName c))
    (hn : ¬ ∃ d ∈ cs, fileName d = fileName c) :
    ∃ s', offer s c = some s' ∧ Holds folder before place (cs ++ [c]) s' := by
  obtain ⟨hp', hf', hw'⟩ := h.takes hp hf hw
  obtain ⟨d', hd', hfolders, hfiles⟩ := Disk.exists_create hp' hf' (isName_fileName c) hw' (bytes c)
  have hpath : Path.join folder (fileName c) ∉ cs.map fun c => Path.join folder (fileName c) := by
    simpa [Path.join_right_inj] using hn
  have hplace : place.inner (fileName c) ∉ cs.map fun c => place.inner (fileName c) := by
    simpa [Place.inner_right_inj] using hn
  obtain ⟨hk, he⟩ | ⟨previous, hprev, -⟩ := s.1.emit_cases c
  · refine ⟨({ s.1 with written := s.1.written.insert (s.1.path c) c }, d'), ?_, h.folder_eq, ?_, fun path => ?_,
      hfolders.trans h.folders, fun q => ?_⟩
    · rw [offer, he, h.path_eq]
      simp [hd']
    · rw [Roster.insert, Roster.keys_update, if_neg hk, h.keys, h.path_eq, List.map_append, List.map_singleton,
        eraseDups_concat, if_neg hpath]
    · rw [Roster.insert, Roster.get?_update, h.written, h.path_eq, firstAt?, firstAt?,
        find?_key_concat fun c => Path.join folder (fileName c)]
      simp only [hpath, not_false_eq_true, and_true]
    · rw [hfiles, h.stored, find?_key_concat fun c => place.inner (fileName c)]
      by_cases hq : q = place.inner (fileName c)
      · simp [hq, hplace]
      · simp [hq]
  · exact absurd (h.mem_keys_iff.1 (List.mem_map_of_mem hprev)) hn

theorem Holds.exists_offer (h : Holds folder before place cs s) (hp : before.place? folder = some place)
    (hf : before.isFolder place) (hw : before.Takes folder place (fileName c)) :
    ∃ s', offer s c = some s' ∧ Holds folder before place (cs ++ [c]) s' := by
  by_cases ht : ∃ d ∈ cs, fileName d = fileName c
  · exact ⟨s, h.offer_of_taken ht⟩
  · exact h.offer_of_new hp hf hw ht

theorem exists_offerAll (hp : before.place? folder = some place) (hf : before.isFolder place)
    (hw : ∀ c ∈ cs, before.Takes folder place (fileName c)) :
    ∃ s, offerAll (empty folder, before) cs = some s ∧ Holds folder before place cs s := by
  -- From the end, since `Holds` is about the charts offered so far.
  induction cs using List.reverseRecOn with
  | nil => exact ⟨_, rfl, holds_nil⟩
  | append_singleton cs c ih =>
    obtain ⟨s, hs, h⟩ := ih fun d hd => hw d (by simp [hd])
    obtain ⟨s', hs', h'⟩ := h.exists_offer hp hf (hw c (by simp))
    refine ⟨s', ?_, h'⟩
    rw [offerAll] at hs ⊢
    rw [List.foldlM_append, hs]
    simpa using hs'

theorem Holds.map_fst_files (h : Holds folder before place cs s) :
    s.1.files.map Prod.fst = (cs.map s.1.path).eraseDups := by
  have hk : s.1.files.map Prod.fst = s.1.written.keys := by
    rw [files, List.map_map]
    rfl
  rw [hk, h.keys, List.map_congr_left fun c _ => h.path_eq c]

theorem Holds.count_eq (h : Holds folder before place cs s) :
    s.1.count = (cs.map s.1.path).eraseDups.length := by
  rw [← h.map_fst_files, List.length_map, files, List.length_map]
  rfl

theorem firstAt?_eq_some {path : String} (h : firstAt? folder cs path = some c) :
    c ∈ cs ∧ path = Path.join folder (fileName c) := by
  have hp := List.find?_some h
  exact ⟨List.mem_of_find?_eq_some h, (of_decide_eq_true hp).symm⟩

theorem Holds.mem_files_iff (h : Holds folder before place cs s) {path text : String} :
    (path, text) ∈ s.1.files ↔ ∃ first, firstAt? folder cs path = some first ∧ text = content first := by
  rw [← h.written]
  simp only [files, List.mem_map, Prod.mk.injEq, ← Roster.mem_entries_iff]
  constructor
  · intro hm
    obtain ⟨⟨p, first⟩, hfirst, rfl, rfl⟩ := hm
    exact ⟨first, hfirst, rfl⟩
  · intro hm
    obtain ⟨first, hfirst, rfl⟩ := hm
    exact ⟨(path, first), hfirst, rfl, rfl⟩

theorem Holds.find_path (h : Holds folder before place cs s) (hp : before.place? folder = some place)
    (hf : before.isFolder place) (hw : before.Takes folder place (fileName c)) (hc : c ∈ cs) :
    ∃ first, firstAt? folder cs (s.1.path c) = some first ∧
      s.2.find (s.1.path c) = .content (bytes first) := by
  have hfirst : firstAt? folder cs (s.1.path c) =
      cs.find? fun d => place.inner (fileName d) = place.inner (fileName c) := by
    simp only [firstAt?, h.path_eq, Path.join_right_inj, Place.inner_right_inj]
  obtain ⟨first, hex⟩ : ∃ first, firstAt? folder cs (s.1.path c) = some first := by
    rw [← Option.isSome_iff_exists, hfirst, List.find?_isSome]
    exact ⟨c, hc, by simp⟩
  obtain ⟨hp', hf', hw'⟩ := h.takes hp hf hw
  have hstored : s.2.files.lookup (place.inner (fileName c)) = some (bytes first) := by
    rw [h.stored, ← hfirst, hex]
    rfl
  refine ⟨first, hex, ?_⟩
  rw [h.path_eq]
  exact Disk.find_join hp' hf' (isName_fileName c) hw' hstored

theorem names_path (f : ChartFolder) (c : Chart) :
    Path.names (f.path c).toList = Path.names f.folder.toList ++ [(fileName c).toList] :=
  Path.names_join (isName_fileName c)

end Run

theorem write_of_offer {d d' : Disk} {place : Place} {f f' g : ChartFolder} {c : Chart}
    (hp : d.place? f.folder = some place) (hf : d.isFolder place) (he : f.emit c = .ok g)
    (ho : offer (f, d) c = some (f', d')) :
    f' = g ∧ Path.isUsable (f.path c) ∧ d.write (place.inner (fileName c)) (bytes c) = some d' := by
  simp only [offer, he, Option.map_eq_some_iff, Prod.mk.injEq] at ho
  obtain ⟨_, hc, rfl, rfl⟩ := ho
  by_cases hu : Path.isUsable (f.path c)
  · rw [Disk.create, path, Disk.place?_join hp hf (isName_fileName c) hu, Option.bind_some] at hc
    exact ⟨rfl, hu, hc⟩
  · simp [Disk.create, Disk.place?, hu] at hc

/-- Charts written at once are where they are when they have been offered one by one. -/
theorem writeAll_of_offerAll {d d' : Disk} {place : Place} {f f' g : ChartFolder} {cs : List Chart}
    (hp : d.place? f.folder = some place) (hf : d.isFolder place) (he : f.emitAll cs = (g, none))
    (ho : offerAll (f, d) cs = some (f', d')) :
    f' = g ∧ ChartPlan.writeAll d f.folder place (cs.map fun c => (fileName c, content c)) = (d', true) := by
  induction cs generalizing f d with
  | nil =>
    obtain ⟨rfl, -⟩ := Prod.mk.inj he
    obtain ⟨rfl, rfl⟩ := Prod.mk.inj (Option.some.inj ho)
    exact ⟨rfl, rfl⟩
  | cons c rest ih =>
    rw [offerAll, List.foldlM_cons, Option.bind_eq_bind, Option.bind_eq_some_iff] at ho
    obtain ⟨⟨f₁, d₁⟩, hs, hrest⟩ := ho
    obtain ⟨-, hok⟩ | ⟨previous, -, herr⟩ := f.emit_cases c
    · obtain ⟨rfl, hu, hw⟩ := write_of_offer hp hf hok hs
      simp only [emitAll, hok] at he
      have hfolders := Disk.folders_of_write hw
      have hp₁ : d₁.place? f.folder = some place := (Disk.place?_congr hfolders _).trans hp
      have hf₁ : d₁.isFolder place := by rwa [Disk.isFolder, hfolders]
      obtain ⟨hg, hall⟩ := ih (f := { f with written := f.written.insert (f.path c) c }) hp₁ hf₁ he hrest
      refine ⟨hg, ?_⟩
      rw [path] at hu
      rw [bytes] at hw
      simp only [List.map_cons, ChartPlan.writeAll, if_pos hu, hw]
      exact hall
    · simp only [emitAll, herr] at he
      cases he

theorem writeAll_eq_of_offerAll {d : Disk} {place : Place} {f g : ChartFolder} {cs : List Chart}
    {refusal : Option Refusal} (hp : d.place? f.folder = some place) (hf : d.isFolder place)
    (he : f.emitAll cs = (g, refusal)) :
    ∃ done rest, cs = done ++ rest ∧ (refusal = none ↔ rest = []) ∧ f.emitAll done = (g, none) ∧
      ∀ f' d', offerAll (f, d) done = some (f', d') →
        f' = g ∧ ChartPlan.writeAll d f.folder place (done.map fun c => (fileName c, content c)) = (d', true) := by
  obtain ⟨done, rest, hcs, hrest, hdone⟩ := emitAll_prefix he
  exact ⟨done, rest, hcs, hrest, hdone, fun f' d' ho => writeAll_of_offerAll hp hf hdone ho⟩

/-- What a folder holds after charts of any ids have been offered to it: one file for each path, a document of the
first chart offered for it and of no other, on record and on the disk, where nothing else has changed. The next chart
is refused exactly if its path is taken, and then all stays as it is. Each path is that of the folder and one name
more. -/
theorem first_charts_kept {folder : String} {former before : Disk} {place : Place} {cs : List Chart}
    (hd : former.makeFolder folder = some (before, place))
    (hw : ∀ c ∈ cs, before.Takes folder place (fileName c)) :
    ∃ f after, offerAll (empty folder, before) cs = some (f, after) ∧ f.folder = folder ∧
      f.files.map Prod.fst = (cs.map f.path).eraseDups ∧
      (∀ path text, (path, text) ∈ f.files ↔
        ∃ first, firstAt? folder cs path = some first ∧ text = content first) ∧
      (∀ path text, (path, text) ∈ f.files →
        ∃ first, firstAt? folder cs path = some first ∧ IsFileOf folder first (path, text)) ∧
      f.count = (cs.map f.path).eraseDups.length ∧
      (∀ q, after.files.lookup q =
        ((cs.find? fun c => place.inner (fileName c) = q).map bytes).or (before.files.lookup q)) ∧
      after.folders = before.folders ∧
      (∀ c ∈ cs, ∃ first, firstAt? folder cs (f.path c) = some first ∧
        after.find (f.path c) = .content (bytes first) ∧ first.IsToldBy (bytes first)) ∧
      (∀ c, ((∃ refusal, f.emit c = .error refusal) ↔ f.path c ∈ cs.map f.path) ∧
        ((∃ refusal, f.emit c = .error refusal) → offer (f, after) c = some (f, after)) ∧
        '/' ∉ (fileName c).toList ∧
        Path.names (f.path c).toList = Path.names folder.toList ++ [(fileName c).toList]) := by
  obtain ⟨hp, hf⟩ := Disk.place?_of_makeFolder hd
  obtain ⟨⟨f, after⟩, hs, h⟩ := exists_offerAll hp hf hw
  refine ⟨f, after, hs, h.folder_eq, h.map_fst_files, fun _ _ => h.mem_files_iff, fun path text hfile => ?_,
    h.count_eq, h.stored, h.folders, fun c hc => ?_,
    fun c => ⟨?_, fun hr => ?_, (isName_fileName c).slash_notMem, ?_⟩⟩
  · obtain ⟨first, hfirst, rfl⟩ := h.mem_files_iff.1 hfile
    obtain ⟨-, rfl⟩ := firstAt?_eq_some hfirst
    exact ⟨first, hfirst, isFileOf_file folder first⟩
  · obtain ⟨first, hfirst, hfind⟩ := h.find_path hp hf (hw c hc) hc
    exact ⟨first, hfirst, hfind, isToldBy_bytes first⟩
  · have hm : f.path c ∈ cs.map f.path ↔ ∃ d ∈ cs, fileName d = fileName c := by
      simp [path, Path.join_right_inj]
    rw [hm]
    exact h.refused_iff
  · exact (h.offer_of_taken (h.refused_iff.1 hr)).1
  · rw [names_path, show f.folder = folder from h.folder_eq]

theorem makeFolder_bare : Disk.bare.makeFolder "out" =
    some (⟨Disk.bare.files, Disk.bare.folders ++ [Place.here.inner "out"]⟩, Place.here.inner "out") := rfl

/-- Two categories that fall together, before the standings. -/
theorem first_charts_kept_blank_and_underscore :
    let bars (id : String) : Bars := ⟨id, id, [], [], []⟩
    let cs : List Chart := [.category (bars "a b"), .category (bars "a_b"), .overall (bars "overall")]
    ∃ before place, Disk.bare.makeFolder "out" = some (before, place) ∧
      (∀ c ∈ cs, before.Takes "out" place (fileName c)) ∧
      ∃ f after, offerAll (empty "out", before) cs = some (f, after) ∧ f.count = 2 ∧
        ∃ first, firstAt? "out" cs "out/category_a_b.json" = some first ∧ first.id = "a b" ∧
          after.find "out/category_a_b.json" = .content (bytes first) ∧ first.IsToldBy (bytes first) := by
  intro bars cs
  have hw : ∀ c ∈ cs, (⟨Disk.bare.files, Disk.bare.folders ++ [Place.here.inner "out"]⟩ : Disk).Takes "out"
      (Place.here.inner "out") (fileName c) := by
    decide +kernel
  obtain ⟨f, after, ho, hfolder, -, -, -, hcount, -, -, hkept, -⟩ := first_charts_kept makeFolder_bare hw
  refine ⟨_, _, makeFolder_bare, hw, f, after, ho, ?_⟩
  obtain ⟨_, written⟩ := f
  cases hfolder
  constructor
  · rw [hcount]
    change (cs.map (empty "out").path).eraseDups.length = 2
    decide +kernel
  · -- The second chart is refused, and the file at its path is that of the first.
    obtain ⟨first, hfirst, hfind, htold⟩ := hkept (.category (bars "a_b")) (by simp [cs])
    have hpath : (⟨"out", written⟩ : ChartFolder).path (.category (bars "a_b")) = "out/category_a_b.json" := by
      change (empty "out").path _ = _
      decide +kernel
    have hid : (firstAt? "out" cs "out/category_a_b.json").map (·.id) = some "a b" := by
      decide +kernel
    rw [hpath] at hfirst hfind
    rw [hfirst] at hid
    exact ⟨first, hfirst, Option.some.inj hid, hfind, htold⟩

end ChartFolder
end CodecBench
