import Mathlib.Data.List.Basic
import Mathlib.Data.List.Forall2
import Mathlib.Data.List.Induction
import Mathlib.Data.List.Nodup
import Mathlib.Data.List.Perm.Basic
/-!
Lists: the distinct elements in first-seen order (`List.eraseDups`), one element more at a time, what
stands before a separator, the places of permuted elements, the first element that has a property (`IsFirst`),
and checks that run through a list and stop at the first failure (`List.mapM` in `Except`).
-/

namespace CodecBench

section Distinct
variable {α β : Type} [DecidableEq α]

theorem eraseDups_concat (xs : List α) (a : α) :
    (xs ++ [a]).eraseDups = if a ∈ xs then xs.eraseDups else xs.eraseDups ++ [a] := by
  rw [List.eraseDups_append]
  by_cases h : a ∈ xs
  · simp [List.removeAll, h]
  · simp [List.removeAll, h, List.eraseDups_cons]

theorem nodup_eraseDups (xs : List α) : xs.eraseDups.Nodup := by
  induction xs using List.reverseRecOn with
  | nil => simp
  | append_singleton xs a ih =>
    rw [eraseDups_concat]
    split
    · exact ih
    · rename_i h
      have hd : ∀ b ∈ xs.eraseDups, b ≠ a := fun b hb e => h (by simpa [e] using hb)
      exact List.nodup_append.2 ⟨ih, by simp, by simpa using hd⟩

theorem pairwise_idxOf_eraseDups (xs : List α) :
    xs.eraseDups.Pairwise fun a b => xs.idxOf a < xs.idxOf b := by
  induction xs using List.reverseRecOn with
  | nil => simp
  | append_singleton xs a ih =>
    have hxs : xs.eraseDups.Pairwise fun b c => (xs ++ [a]).idxOf b < (xs ++ [a]).idxOf c := by
      refine ih.imp_of_mem fun {b c} hb hc hbc => ?_
      rw [List.mem_eraseDups] at hb hc
      rwa [List.idxOf_append, List.idxOf_append, if_pos hb, if_pos hc]
    rw [eraseDups_concat]
    split
    · exact hxs
    · rename_i h
      refine List.pairwise_append.2 ⟨hxs, by simp, fun b hb c hc => ?_⟩
      rw [List.mem_eraseDups] at hb
      rw [List.mem_singleton] at hc
      subst hc
      rw [List.idxOf_append, List.idxOf_append, if_pos hb, if_neg h]
      have := List.idxOf_lt_length_of_mem hb
      omega

theorem filter_eraseDups (p : α → Bool) (xs : List α) :
    xs.eraseDups.filter p = (xs.filter p).eraseDups := by
  induction xs using List.reverseRecOn with
  | nil => rfl
  | append_singleton xs a ih =>
    rw [eraseDups_concat, List.filter_append]
    cases hp : p a with
    | false =>
      have hd : [a].filter p = [] := by simp [hp]
      rw [hd, List.append_nil, ← ih]
      split
      · rfl
      · rw [List.filter_append, hd, List.append_nil]
    | true =>
      have hd : [a].filter p = [a] := by simp [hp]
      rw [hd, eraseDups_concat, ← ih]
      by_cases ha : a ∈ xs
      · rw [if_pos ha, if_pos (List.mem_filter.2 ⟨ha, hp⟩)]
      · have hf : a ∉ xs.filter p := fun h => ha (List.mem_filter.1 h).1
        rw [if_neg ha, if_neg hf, List.filter_append, hd]

theorem eraseDups_append_eq (xs ys : List α) :
    (xs ++ ys).eraseDups = xs.eraseDups ++ ys.eraseDups.filter (· ∉ xs) := by
  rw [List.eraseDups_append, filter_eraseDups]
  congr 2
  refine List.filter_congr fun a _ => ?_
  simp

theorem eraseDups_append_congr {xs xs' ys ys' : List α} (hx : xs.eraseDups = xs'.eraseDups)
    (hy : ys.eraseDups = ys'.eraseDups) : (xs ++ ys).eraseDups = (xs' ++ ys').eraseDups := by
  have hm : ∀ a, a ∈ xs ↔ a ∈ xs' := fun a => by
    rw [← List.mem_eraseDups, hx, List.mem_eraseDups]
  simp only [eraseDups_append_eq, hx, hy, hm]

theorem eraseDups_flatMap_congr {f g : β → List α} {xs : List β}
    (h : ∀ x ∈ xs, (f x).eraseDups = (g x).eraseDups) :
    (xs.flatMap f).eraseDups = (xs.flatMap g).eraseDups := by
  induction xs with
  | nil => rfl
  | cons x xs ih =>
    rw [List.flatMap_cons, List.flatMap_cons]
    exact eraseDups_append_congr (h x (by simp)) (ih fun y hy => h y (by simp [hy]))

theorem eraseDups_flatMap_const {xs : List β} (h : xs ≠ []) (ys : List α) :
    (xs.flatMap fun _ => ys).eraseDups = ys.eraseDups := by
  obtain ⟨x, xs, rfl⟩ := List.exists_cons_of_ne_nil h
  rw [List.flatMap_cons, eraseDups_append_eq, List.append_right_eq_self, List.filter_eq_nil_iff]
  intro a ha
  obtain ⟨-, -, hy⟩ := List.mem_flatMap.1 (List.mem_eraseDups.1 ha)
  simpa using hy

theorem eraseDups_eq_self {xs : List α} (h : xs.Nodup) : xs.eraseDups = xs := by
  induction xs using List.reverseRecOn with
  | nil => rfl
  | append_singleton xs a ih =>
    rw [← List.concat_eq_append, List.nodup_concat] at h
    obtain ⟨ha, hx⟩ := h
    rw [eraseDups_concat, if_neg ha, ih hx]

theorem eraseDups_perm {xs ys : List α} (h : ∀ a, a ∈ xs ↔ a ∈ ys) : xs.eraseDups.Perm ys.eraseDups :=
  (List.perm_ext_iff_of_nodup (nodup_eraseDups xs) (nodup_eraseDups ys)).2 fun a => by
    rw [List.mem_eraseDups, List.mem_eraseDups, h]

/-- Two lists of the same elements have them in one first-seen order if one keeps the order of the
other for any two of them. -/
theorem eraseDups_eq_iff {xs ys : List α} (hm : ∀ a, a ∈ xs ↔ a ∈ ys) :
    xs.eraseDups = ys.eraseDups ↔ ∀ a b, ys.idxOf a < ys.idxOf b → xs.idxOf a < xs.idxOf b := by
  constructor
  · intro h a b hab
    have hay : a ∈ ys := by
      rw [← List.idxOf_lt_length_iff]
      exact Nat.lt_of_lt_of_le hab List.idxOf_le_length
    have hax : a ∈ xs := (hm a).2 hay
    by_cases hb : b ∈ xs
    · have hxs : xs.eraseDups.Pairwise fun c d => ys.idxOf c < ys.idxOf d → xs.idxOf c < xs.idxOf d := by
        refine (pairwise_idxOf_eraseDups xs).imp fun {c d} hcd => ?_
        exact fun _ => hcd
      have hys : xs.eraseDups.Pairwise fun c d => ys.idxOf d < ys.idxOf c → xs.idxOf d < xs.idxOf c := by
        rw [h]
        refine (pairwise_idxOf_eraseDups ys).imp fun {c d} hcd => ?_
        exact fun hdc => absurd hcd (Nat.lt_asymm hdc)
      have hall := hxs.forall_of_forall_of_flip (fun c _ hc => absurd hc (Nat.lt_irrefl _)) hys
      exact hall (List.mem_eraseDups.2 hax) (List.mem_eraseDups.2 hb) hab
    · rw [List.idxOf_eq_length_iff.2 hb]
      exact List.idxOf_lt_length_of_mem hax
  · intro h
    refine (eraseDups_perm hm).eq_of_pairwise (fun a b _ _ hab hba => ?_) (pairwise_idxOf_eraseDups xs)
      ((pairwise_idxOf_eraseDups ys).imp fun {a b} => h a b)
    exact absurd hab (Nat.lt_asymm hba)

theorem idxOf_flatMap_lt_iff {f : β → List α} {xs : List β} {a b : α} :
    (xs.flatMap f).idxOf a < (xs.flatMap f).idxOf b ↔
      ∃ x, xs.find? (fun x => a ∈ f x ∨ b ∈ f x) = some x ∧ (f x).idxOf a < (f x).idxOf b := by
  induction xs with
  | nil => simp
  | cons x xs ih =>
    rw [List.flatMap_cons, List.find?_cons]
    by_cases hx : a ∈ f x ∨ b ∈ f x
    · have hl : (f x ++ xs.flatMap f).idxOf a < (f x ++ xs.flatMap f).idxOf b ↔
          (f x).idxOf a < (f x).idxOf b := by
        by_cases ha : a ∈ f x
        · have hla := List.idxOf_lt_length_of_mem ha
          rw [List.idxOf_append_of_mem ha]
          by_cases hb : b ∈ f x
          · rw [List.idxOf_append_of_mem hb]
          · rw [List.idxOf_append_of_notMem hb, List.idxOf_eq_length_iff.2 hb]
            omega
        · have hb : b ∈ f x := hx.resolve_left ha
          have hlb := List.idxOf_lt_length_of_mem hb
          rw [List.idxOf_append_of_notMem ha, List.idxOf_append_of_mem hb,
            List.idxOf_eq_length_iff.2 ha]
          omega
      simp [hx, hl]
    · obtain ⟨ha, hb⟩ := not_or.1 hx
      rw [List.idxOf_append_of_notMem ha, List.idxOf_append_of_notMem hb, Nat.add_lt_add_iff_left, ih]
      simp [hx]

theorem filter_eq_of_nodup {xs : List α} (h : xs.Nodup) (a : α) :
    xs.filter (· = a) = if a ∈ xs then [a] else [] := by
  rw [List.filter_eq]
  by_cases ha : a ∈ xs
  · rw [if_pos ha, List.nodup_iff_count_eq_one.1 h a ha, List.replicate_one]
  · rw [if_neg ha, List.count_eq_zero_of_not_mem ha, List.replicate_zero]

theorem filter_filterMap_of_nodup {xs : List α} (h : xs.Nodup) {f : α → Option β} {p : β → Bool} {a : α}
    (hp : ∀ x y, f x = some y → p y = decide (x = a)) :
    (xs.filterMap f).filter p = if a ∈ xs then (f a).toList else [] := by
  have hf : (xs.filterMap f).filter p = (xs.filter (· = a)).filterMap f := by
    rw [List.filter_filterMap, List.filterMap_filter]
    refine List.filterMap_congr fun x _ => ?_
    cases hx : f x with
    | none => simp
    | some y => simp [Option.filter_some, hp x y hx]
  rw [hf, filter_eq_of_nodup h]
  split
  · cases hx : f a <;> simp [hx]
  · rfl

theorem find?_key_concat (key : β → α) (xs : List β) (x : β) (a : α) :
    (xs ++ [x]).find? (fun y => key y = a) =
      if a = key x ∧ key x ∉ xs.map key then some x else xs.find? fun y => key y = a := by
  rw [List.find?_append]
  by_cases ha : key x = a
  · subst ha
    by_cases hx : key x ∈ xs.map key
    · obtain ⟨y, hy, hyx⟩ := List.mem_map.1 hx
      cases hf : xs.find? fun y => key y = key x with
      | some first => simp [hx]
      | none => exact absurd (decide_eq_true hyx) (List.find?_eq_none.1 hf y hy)
    · have hf : xs.find? (fun y => key y = key x) = none := by
        rw [List.find?_eq_none]
        intro y hy hyx
        exact hx (List.mem_map.2 ⟨y, hy, of_decide_eq_true hyx⟩)
      simp [hx, hf]
  · have ha' : ¬ a = key x := fun e => ha e.symm
    simp [ha, ha']

theorem flatMap_filter_key_perm {key : β → α} {ks : List α} (hd : ks.Nodup) {xs : List β}
    (h : ∀ x ∈ xs, key x ∈ ks) : (ks.flatMap fun k => xs.filter fun x => key x = k).Perm xs := by
  induction ks generalizing xs with
  | nil =>
    have hxs : xs = [] := List.eq_nil_iff_forall_not_mem.2 fun x hx => List.not_mem_nil (h x hx)
    simp [hxs]
  | cons k ks ih =>
    obtain ⟨hk, hd⟩ := List.nodup_cons.1 hd
    have hrest : (ks.flatMap fun j => xs.filter fun x => key x = j) =
        ks.flatMap fun j => (xs.filter fun x => !decide (key x = k)).filter fun x => key x = j := by
      refine List.flatMap_congr fun j hj => ?_
      rw [List.filter_filter]
      refine List.filter_congr fun x _ => ?_
      by_cases hx : key x = j
      · have hjk : ¬ j = k := fun e => hk (e ▸ hj)
        simp [hx, hjk]
      · simp [hx]
    have hkeys : ∀ x ∈ xs.filter fun x => !decide (key x = k), key x ∈ ks := by
      intro x hx
      obtain ⟨hx, hne⟩ := List.mem_filter.1 hx
      exact (List.mem_cons.1 (h x hx)).resolve_left (by simpa using hne)
    rw [List.flatMap_cons, hrest]
    exact ((ih hd hkeys).append_left _).trans (List.filter_append_perm _ xs)

/-- A list in the order of its keys is known from what has each key. -/
theorem eq_of_pairwise_key {le : α → α → Prop} (hle : ∀ a b, le a b → le b a → a = b) {key : β → α}
    {xs ys : List β} (hx : xs.Pairwise fun x y => le (key x) (key y))
    (hy : ys.Pairwise fun x y => le (key x) (key y))
    (h : ∀ k, (xs.filter fun x => key x = k) = ys.filter fun y => key y = k) : xs = ys := by
  induction xs generalizing ys with
  | nil =>
    refine (List.eq_nil_iff_forall_not_mem.2 fun y hys => ?_).symm
    have hmem : y ∈ ys.filter fun z => key z = key y := List.mem_filter.2 ⟨hys, by simp⟩
    simp [← h] at hmem
  | cons x xs ih =>
    obtain ⟨hxs, hxt⟩ := List.pairwise_cons.1 hx
    have hxy : x ∈ ys.filter fun y => key y = key x := by simp [← h]
    cases ys with
    | nil => simp at hxy
    | cons y ys =>
      obtain ⟨hys, hyt⟩ := List.pairwise_cons.1 hy
      have hyx : y ∈ (x :: xs).filter fun z => key z = key y := by simp [h]
      have hkey : key x = key y := by
        obtain rfl | hxm := List.mem_cons.1 (List.mem_filter.1 hxy).1
        · rfl
        · obtain rfl | hym := List.mem_cons.1 (List.mem_filter.1 hyx).1
          · rfl
          · exact hle _ _ (hxs y hym) (hys x hxm)
      -- both heads stand first among what has their key
      have hhead := h (key x)
      rw [List.filter_cons_of_pos (by simp), List.filter_cons_of_pos (by simp [hkey])] at hhead
      obtain ⟨rfl, -⟩ := List.cons.inj hhead
      refine congrArg (List.cons x) (ih hxt hyt fun k => ?_)
      have hk := h k
      by_cases hxk : key x = k
      · simpa [List.filter_cons, hxk] using hk
      · simpa [List.filter_cons, hxk] using hk

theorem takeWhile_append_cons {as : List α} {a : α} (h : a ∉ as) (bs : List α) :
    (as ++ a :: bs).takeWhile (· ≠ a) = as := by
  have ha : ∀ b ∈ as, decide (b ≠ a) := fun b hb => by simpa using fun e : b = a => h (e ▸ hb)
  rw [List.takeWhile_append_of_pos ha, List.takeWhile_cons_of_neg (by simp), List.append_nil]

end Distinct

/-- Where no two elements of a list share a key, what all share one stands alone and has no order. -/
theorem filter_eq_of_perm {α β : Type} {xs ys : List α} {key : α → β} {p : α → Bool}
    (h : xs.Perm ys) (hd : (xs.map key).Nodup)
    (hp : ∀ x ∈ xs, ∀ y ∈ xs, p x → p y → key x = key y) :
    xs.filter p = ys.filter p := by
  have hxs : (xs.filter p).Pairwise fun x y => key x ≠ key y := (List.pairwise_map.1 hd).filter p
  have hys : (ys.filter p).Pairwise fun x y => key x ≠ key y :=
    (List.pairwise_map.1 ((h.map key).nodup_iff.1 hd)).filter p
  refine (h.filter p).eq_of_pairwise (fun x y hx hy hne _ => ?_) hxs hys
  rw [List.mem_filter] at hx hy
  exact absurd (hp x hx.1 y (h.mem_iff.2 hy.1) hx.2 hy.2) hne

theorem filterMap_or_perm {α β : Type} {f g : α → Option β} (h : ∀ x, f x = none ∨ g x = none) (xs : List α) :
    (xs.filterMap fun x => (f x).or (g x)).Perm (xs.filterMap f ++ xs.filterMap g) := by
  induction xs with
  | nil => exact .nil
  | cons x xs ih =>
    obtain hf | hg := h x
    · cases hg : g x with
      | none => simpa [List.filterMap_cons, hf, hg] using ih
      | some y => simpa [List.filterMap_cons, hf, hg] using (ih.cons y).trans List.perm_middle.symm
    · cases hf : f x <;> simpa [List.filterMap_cons, hf, hg] using ih

theorem forall₂_and_iff {α β : Type} {g : β → α} {p : α → β → Prop} {xs : List α} {ys : List β} :
    List.Forall₂ (fun x y => g y = x ∧ p x y) xs ys ↔ ys.map g = xs ∧ ∀ y ∈ ys, p (g y) y := by
  induction ys generalizing xs with
  | nil => simp [eq_comm]
  | cons y ys ih =>
    rw [List.forall₂_cons_right_iff, List.map_cons, List.forall_mem_cons]
    constructor
    · intro h
      obtain ⟨x, rest, ⟨rfl, hp⟩, hrest, rfl⟩ := h
      obtain ⟨rfl, hps⟩ := ih.1 hrest
      exact ⟨rfl, hp, hps⟩
    · intro h
      obtain ⟨rfl, hp, hps⟩ := h
      exact ⟨_, _, ⟨rfl, hp⟩, ih.2 ⟨rfl, hps⟩, rfl⟩

theorem forall₂_exists_iff {α β γ : Type} {p : α → γ → Prop} {q : β → γ → Prop} {xs : List α} {ys : List β} :
    List.Forall₂ (fun x y => ∃ z, p x z ∧ q y z) xs ys ↔ ∃ zs, List.Forall₂ p xs zs ∧ List.Forall₂ q ys zs := by
  constructor
  · intro h
    induction h with
    | nil => exact ⟨[], .nil, .nil⟩
    | cons hz _ ih =>
      obtain ⟨z, hp, hq⟩ := hz
      obtain ⟨zs, hps, hqs⟩ := ih
      exact ⟨z :: zs, .cons hp hps, .cons hq hqs⟩
  · rintro ⟨zs, hps, hqs⟩
    induction hps generalizing ys with
    | nil =>
      cases hqs
      exact .nil
    | cons hp _ ih =>
      obtain ⟨y, ys, hq, hrest, rfl⟩ := List.forall₂_cons_right_iff.1 hqs
      exact .cons ⟨_, hp, hq⟩ (ih hrest)

theorem exists_place_of_perm {α : Type} {xs ys : List α} (h : xs.Perm ys) :
    ∃ place : Fin xs.length → Fin ys.length, Function.Bijective place ∧ ∀ k, ys[place k] = xs[k] := by
  classical
  exact ⟨h.idxBij, ⟨h.idxBij_injective, h.idxBij_surjective⟩, fun k => h.getElem_idxBij_eq_getElem k⟩

theorem notMem_toDigits {c : Char} (hc : c.isDigit = false) (n : Nat) : c ∉ Nat.toDigits 10 n := by
  intro h
  rw [Nat.isDigit_of_mem_toDigits (by decide) (by decide) h] at hc
  cases hc

section First

inductive IsFirst {α : Type} (p : α → Prop) : List α → α → Prop where
  | head {x xs} (hx : p x) : IsFirst p (x :: xs) x
  | tail {y xs x} (hy : ¬ p y) (h : IsFirst p xs x) : IsFirst p (y :: xs) x

variable {α : Type} {p q : α → Prop} {xs : List α} {x : α}

theorem IsFirst.mem (h : IsFirst p xs x) : x ∈ xs := by
  induction h with
  | head hx => exact List.mem_cons_self
  | tail hy h ih => exact List.mem_cons_of_mem _ ih

theorem IsFirst.holds (h : IsFirst p xs x) : p x := by
  induction h with
  | head hx => exact hx
  | tail hy h ih => exact ih

theorem exists_isFirst_iff : (∃ x, IsFirst p xs x) ↔ ∃ x ∈ xs, p x := by
  constructor
  · intro h
    obtain ⟨x, hx⟩ := h
    exact ⟨x, hx.mem, hx.holds⟩
  · intro h
    induction xs with
    | nil => simp at h
    | cons y xs ih =>
      by_cases hy : p y
      · exact ⟨y, .head hy⟩
      · have hxs : ∃ x ∈ xs, p x := by simpa [hy] using h
        obtain ⟨x, hx⟩ := ih hxs
        exact ⟨x, .tail hy hx⟩

theorem IsFirst.congr (h : IsFirst p xs x) (hpq : ∀ y ∈ xs, p y ↔ q y) : IsFirst q xs x := by
  induction h with
  | head hx => exact .head ((hpq _ List.mem_cons_self).1 hx)
  | tail hy h ih =>
    apply IsFirst.tail
    · exact fun hq => hy ((hpq _ List.mem_cons_self).2 hq)
    · exact ih fun y hy => hpq y (List.mem_cons_of_mem _ hy)

theorem isFirst_congr (hpq : ∀ y ∈ xs, p y ↔ q y) : IsFirst p xs x ↔ IsFirst q xs x :=
  ⟨fun h => h.congr hpq, fun h => h.congr fun y hy => (hpq y hy).symm⟩

theorem isFirst_iff_head? (h : ∀ y ∈ xs, p y) : IsFirst p xs x ↔ xs.head? = some x := by
  cases xs with
  | nil =>
    simp only [List.head?_nil, reduceCtorEq, iff_false]
    intro hx
    cases hx
  | cons y xs =>
    have hy : p y := h y List.mem_cons_self
    constructor
    · intro hx
      cases hx with
      | head _ => rfl
      | tail hn _ => exact absurd hy hn
    · intro hx
      obtain rfl := Option.some.inj hx
      exact .head hy

end First

section Checks
variable {α β ε : Type} {f : α → Except ε β}

theorem mapM_cons_eq_ok_iff {x : α} {xs : List α} {ys : List β} :
    (x :: xs).mapM f = .ok ys ↔ ∃ y zs, f x = .ok y ∧ xs.mapM f = .ok zs ∧ ys = y :: zs := by
  rw [List.mapM_cons]
  cases hx : f x with
  | error e => simp [bind, Except.bind]
  | ok y =>
    cases hxs : xs.mapM f with
    | error e => simp [bind, Except.bind]
    | ok zs => simp [bind, Except.bind, pure, Except.pure, eq_comm]

theorem mapM_eq_ok_iff {xs : List α} {ys : List β} :
    xs.mapM f = .ok ys ↔ List.Forall₂ (fun x y => f x = .ok y) xs ys := by
  induction xs generalizing ys with
  | nil => simp [pure, Except.pure, eq_comm]
  | cons x xs ih =>
    rw [mapM_cons_eq_ok_iff, List.forall₂_cons_left_iff]
    simp only [ih, exists_and_left]

theorem exists_mapM_eq_ok_iff {xs : List α} :
    (∃ ys, xs.mapM f = .ok ys) ↔ ∀ x ∈ xs, ∃ y, f x = .ok y := by
  induction xs with
  | nil => simp [pure, Except.pure]
  | cons x xs ih =>
    simp only [mapM_cons_eq_ok_iff, List.forall_mem_cons, ← ih]
    constructor
    · intro h
      obtain ⟨-, y, zs, hx, hxs, -⟩ := h
      exact ⟨⟨y, hx⟩, zs, hxs⟩
    · intro h
      obtain ⟨⟨y, hx⟩, zs, hxs⟩ := h
      exact ⟨y :: zs, y, zs, hx, hxs, rfl⟩

theorem mapM_cons_eq_error_iff {x : α} {xs : List α} {e : ε} :
    (x :: xs).mapM f = .error e ↔ f x = .error e ∨ (∃ y, f x = .ok y) ∧ xs.mapM f = .error e := by
  rw [List.mapM_cons]
  cases hx : f x with
  | error e' => simp [bind, Except.bind]
  | ok y => cases hxs : xs.mapM f <;> simp [bind, Except.bind, pure, Except.pure]

theorem mapM_eq_error_iff {xs : List α} {e : ε} :
    xs.mapM f = .error e ↔ ∃ x, IsFirst (fun y => ∃ e, f y = .error e) xs x ∧ f x = .error e := by
  induction xs with
  | nil =>
    simp only [List.mapM_nil, pure, Except.pure, reduceCtorEq, false_iff, not_exists]
    intro x hx
    cases hx.1
  | cons x xs ih =>
    rw [mapM_cons_eq_error_iff, ih]
    constructor
    · intro h
      obtain h | ⟨⟨y, hy⟩, z, hz, hfz⟩ := h
      · exact ⟨x, .head ⟨e, h⟩, h⟩
      · exact ⟨z, .tail (by simp [hy]) hz, hfz⟩
    · intro h
      obtain ⟨z, hz, hfz⟩ := h
      cases hz with
      | head _ => exact .inl hfz
      | tail hn hz =>
        cases hx : f x with
        | error e' => exact absurd ⟨e', hx⟩ hn
        | ok y => exact .inr ⟨⟨y, rfl⟩, z, hz, hfz⟩

theorem outcome_iff {e : Except ε β} {p : β → Prop} {q : ε → Prop} (hp : ∀ y, p y → e = .ok y)
    (hq : ∀ fault, q fault → e = .error fault) (h : (∃ y, p y) ∨ ∃ fault, q fault) :
    (∀ y, e = .ok y ↔ p y) ∧ ∀ fault, e = .error fault ↔ q fault := by
  obtain ⟨y, hy⟩ | ⟨fault, hf⟩ := h
  · have he := hp y hy
    refine ⟨fun z => ⟨fun hz => ?_, hp z⟩, fun other => ⟨fun ho => ?_, hq other⟩⟩
    · obtain rfl : y = z := Except.ok.inj (he.symm.trans hz)
      exact hy
    · cases he.symm.trans ho
  · have he := hq fault hf
    refine ⟨fun z => ⟨fun hz => ?_, hp z⟩, fun other => ⟨fun ho => ?_, hq other⟩⟩
    · cases he.symm.trans hz
    · obtain rfl : fault = other := Except.error.inj (he.symm.trans ho)
      exact hf

theorem map_eq_ok_iff {g : α → β} {e : Except ε α} {y : β} :
    e.map g = .ok y ↔ ∃ x, e = .ok x ∧ y = g x := by
  cases e <;> simp [Except.map, eq_comm]

theorem exists_map_eq_ok_iff {g : α → β} {e : Except ε α} :
    (∃ y, e.map g = .ok y) ↔ ∃ x, e = .ok x := by
  cases e <;> simp [Except.map]

theorem map_eq_error_iff {g : α → β} {e : Except ε α} {fault : ε} :
    e.map g = .error fault ↔ e = .error fault := by
  cases e <;> simp [Except.map]

end Checks
end CodecBench
