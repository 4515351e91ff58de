import CodecBench.Proofs.Lists
import CodecBench.Roster
/-!
Rosters filled from a list, each element being entered under its key: the keys are the distinct keys
of the list in first-seen order, and what stands under a key comes from its own elements alone.
-/

namespace CodecBench
namespace Roster
variable {α β γ : Type} [DecidableEq α]

theorem mem_keys_iff {r : Roster α β} {k : α} : k ∈ r.keys ↔ ∃ v, r.get? k = some v := by
  unfold keys get?
  induction r.entries with
  | nil => simp
  | cons p rest ih =>
    obtain ⟨k', v⟩ := p
    by_cases h : k = k'
    · simp [h]
    · simp [List.lookup_cons, beq_false_of_ne h, h, ih]

theorem mem_entries_iff {r : Roster α β} {k : α} {v : β} :
    (k, v) ∈ r.entries ↔ r.get? k = some v := by
  obtain ⟨l, hl⟩ := r
  unfold get?
  induction l with
  | nil => simp
  | cons p rest ih =>
    obtain ⟨k', v'⟩ := p
    obtain ⟨hk, hrest⟩ := List.nodup_cons.1 hl
    by_cases h : k = k'
    · subst h
      have hv : (k, v) ∉ rest := fun hm => hk (List.mem_map.2 ⟨(k, v), hm, rfl⟩)
      simp [hv, eq_comm]
    · simp [List.lookup_cons, beq_false_of_ne h, h, ih hrest]

theorem entries_eq_map {r : Roster α β} {g : α → β} (h : ∀ k ∈ r.keys, r.get? k = some (g k)) :
    r.entries = r.keys.map fun k => (k, g k) := by
  have he : ∀ e ∈ r.entries, (e.1, g e.1) = e := by
    intro e he
    have hk : e.1 ∈ r.keys := List.mem_map_of_mem he
    have hv : r.get? e.1 = some e.2 := mem_entries_iff.1 he
    have hg : g e.1 = e.2 := Option.some.inj ((h e.1 hk).symm.trans hv)
    rw [hg]
  rw [keys, List.map_map, Function.comp_def, List.map_congr_left he, List.map_id']

theorem setIn_of_notMem {k : α} {l : List (α × β)} (h : k ∉ l.map Prod.fst) (f : Option β → β) :
    setIn k f l = l ++ [(k, f none)] := by
  induction l with
  | nil => rfl
  | cons p rest ih =>
    obtain ⟨k', v⟩ := p
    rw [List.map_cons, List.mem_cons, not_or] at h
    obtain ⟨hk, hrest⟩ := h
    rw [setIn, if_neg fun e => hk e.symm, ih hrest, List.cons_append]

theorem entries_insert_of_notMem {r : Roster α β} {k : α} (h : k ∉ r.keys) (v : β) :
    (r.insert k v).entries = r.entries ++ [(k, v)] :=
  setIn_of_notMem h fun _ => v

def enterAll (key : γ → α) (f : γ → Option β → β) (xs : List γ) : Roster α β :=
  xs.foldl (fun r x => r.update (key x) (f x)) ∅

theorem enterAll_concat (key : γ → α) (f : γ → Option β → β) (xs : List γ) (x : γ) :
    enterAll key f (xs ++ [x]) = (enterAll key f xs).update (key x) (f x) := by
  simp [enterAll]

theorem keys_enterAll (key : γ → α) (f : γ → Option β → β) (xs : List γ) :
    (enterAll key f xs).keys = (xs.map key).eraseDups := by
  induction xs using List.reverseRecOn with
  | nil => rfl
  | append_singleton xs x ih =>
    rw [enterAll_concat, keys_update, ih, List.map_append, List.map_singleton, eraseDups_concat]
    simp only [List.mem_eraseDups]

theorem get?_enterAll (key : γ → α) (f : γ → Option β → β) (xs : List γ) (k : α) :
    (enterAll key f xs).get? k =
      (xs.filter fun x => key x = k).foldl (fun v? x => some (f x v?)) none := by
  induction xs using List.reverseRecOn with
  | nil => rfl
  | append_singleton xs x ih =>
    rw [enterAll_concat, get?_update, List.filter_append, List.foldl_append]
    by_cases h : k = key x
    · simp [← h, ih]
    · have hx : ¬ key x = k := fun e => h e.symm
      simp [h, hx, ih]

theorem get?_enterAll_getD (key : γ → α) (f : γ → β → β) (b : β) (xs : List γ) (k : α) :
    (enterAll key (fun x v? => f x (v?.getD b)) xs).get? k =
      if k ∈ xs.map key then some ((xs.filter fun x => key x = k).foldl (fun v x => f x v) b)
      else none := by
  induction xs using List.reverseRecOn with
  | nil => rfl
  | append_singleton xs x ih =>
    rw [enterAll_concat, get?_update, List.filter_append, List.foldl_append, List.map_append,
      List.map_singleton]
    by_cases h : k = key x
    · subst h
      rw [if_pos rfl, if_pos (by simp), ih]
      by_cases hx : key x ∈ xs.map key
      · simp [hx]
      · have hf : (xs.filter fun y => key y = key x) = [] := by
          rw [List.filter_eq_nil_iff]
          intro y hy hyx
          exact hx (List.mem_map.2 ⟨y, hy, by simpa using hyx⟩)
        simp [hx, hf]
    · have hx : ¬ key x = k := fun e => h e.symm
      simp [h, hx, ih]

end Roster
end CodecBench
