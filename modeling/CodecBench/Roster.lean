/-!
Rosters: values under pairwise distinct keys, in the order in which the keys first came. Updating a
key that is present keeps its place, and a new key goes to the end (`keys_update`); the value under
the updated key changes and no other does (`get?_update`).
-/

namespace CodecBench

structure Roster (α β : Type) where
  entries : List (α × β)
  nodup_keys : (entries.map Prod.fst).Nodup

namespace Roster
variable {α β : Type}

def empty : Roster α β := ⟨[], .nil⟩

instance : EmptyCollection (Roster α β) := ⟨empty⟩

def keys (r : Roster α β) : List α := r.entries.map Prod.fst

def values (r : Roster α β) : List β := r.entries.map Prod.snd

def size (r : Roster α β) : Nat := r.entries.length

def isEmpty (r : Roster α β) : Bool := r.entries.isEmpty

theorem nodup (r : Roster α β) : r.keys.Nodup := r.nodup_keys

@[simp] theorem keys_empty : (∅ : Roster α β).keys = [] := rfl

variable [DecidableEq α]

def get? (r : Roster α β) (k : α) : Option β := r.entries.lookup k

def contains (r : Roster α β) (k : α) : Bool := (r.get? k).isSome

/-- The pairs with the value under `k` made from the former one, if there was one. -/
def setIn (k : α) (f : Option β → β) : List (α × β) → List (α × β)
  | [] => [(k, f none)]
  | (k', v) :: rest => if k' = k then (k', f (some v)) :: rest else (k', v) :: setIn k f rest

theorem map_fst_setIn (k : α) (f : Option β → β) (l : List (α × β)) :
    (setIn k f l).map Prod.fst =
      if k ∈ l.map Prod.fst then l.map Prod.fst else l.map Prod.fst ++ [k] := by
  induction l with
  | nil => rfl
  | cons p rest ih =>
    obtain ⟨k', v⟩ := p
    by_cases h : k' = k
    · simp [setIn, h]
    · have h' : k ≠ k' := fun e => h e.symm
      simp only [setIn, if_neg h, List.map_cons, ih, List.mem_cons, h', false_or]
      split <;> rfl

theorem lookup_setIn (k j : α) (f : Option β → β) (l : List (α × β)) :
    (setIn k f l).lookup j = if j = k then some (f (l.lookup k)) else l.lookup j := by
  induction l with
  | nil =>
    by_cases h : j = k
    · simp [setIn, h]
    · simp [setIn, List.lookup_cons, beq_false_of_ne h, h]
  | cons p rest ih =>
    obtain ⟨k', v⟩ := p
    by_cases hk : k' = k
    · subst hk
      by_cases hj : j = k'
      · simp [setIn, hj]
      · simp [setIn, List.lookup_cons, beq_false_of_ne hj, hj]
    · have hk' : (k == k') = false := beq_false_of_ne fun e => hk e.symm
      by_cases hj : j = k'
      · subst hj; simp [setIn, hk]
      · simp [setIn, hk, List.lookup_cons, beq_false_of_ne hj, hk', ih]

/-- Replaces the value under `k` by `f` of the former one, or adds `k` at the end. -/
def update (r : Roster α β) (k : α) (f : Option β → β) : Roster α β where
  entries := setIn k f r.entries
  nodup_keys := by
    rw [map_fst_setIn]
    split
    · exact r.nodup_keys
    · rename_i h
      exact List.nodup_append.2
        ⟨r.nodup_keys, by simp, fun a ha b hb hab => h (by simp_all)⟩

def insert (r : Roster α β) (k : α) (v : β) : Roster α β := r.update k fun _ => v

@[simp] theorem get?_empty (k : α) : (∅ : Roster α β).get? k = none := rfl

theorem keys_update (r : Roster α β) (k : α) (f : Option β → β) :
    (r.update k f).keys = if k ∈ r.keys then r.keys else r.keys ++ [k] :=
  map_fst_setIn k f r.entries

theorem get?_update (r : Roster α β) (k j : α) (f : Option β → β) :
    (r.update k f).get? j = if j = k then some (f (r.get? k)) else r.get? j :=
  lookup_setIn k j f r.entries

end Roster
end CodecBench
