import CodecBench.Table
/-!
What a text takes between blanks. A blank joins nothing, so that the texts on both sides of it take what they take
alone (`columns_append_spaces`). This needs that no text takes less than nothing: some characters take back a column of
what follows them, but only one that was counted there in advance (`Columns.owed_measure`).
-/

namespace CodecBench
namespace Columns

/-- The column that a character may take back by joining what follows it. -/
def Follower.owed : Follower → Int
  | .ligature .joinedConsonant _ | .ligature .coengLetter _ | .joinedRegional | .joinedRegionalsOdd => 1
  | _ => 0

theorem Follower.owed_nonneg (f : Follower) : 0 ≤ f.owed := by
  unfold owed
  split <;> decide

/-- What a character leaves to be taken back is covered by what there was to take back, with what it adds. -/
def Covered (had : Int) : Option (Int × Follower) → Prop
  | none => True
  | some (n, f) => f.owed ≤ had + n

theorem Covered.ite {had : Int} {p : Prop} [Decidable p] {x y : Option (Int × Follower)} (hx : Covered had x)
    (hy : Covered had y) : Covered had (if p then x else y) := by
  split
  · exact hx
  · exact hy

theorem owed_lone (c : Char) : (lone c).2.owed ≤ (lone c).1 := by
  have hite : ∀ (p : Prop) [Decidable p] (x y : Nat × Follower), x.2.owed ≤ x.1 → y.2.owed ≤ y.1 →
      (if p then x else y).2.owed ≤ (if p then x else y).1 := by
    intro p _ x y hx hy
    split
    · exact hx
    · exact hy
  unfold lone
  repeat' apply hite
  · exact Int.natCast_nonneg _
  all_goals decide

theorem covered_afterJoiner (c : Char) : Covered 0 (afterJoiner c) := by
  unfold afterJoiner
  repeat' apply Covered.ite
  all_goals simp [Covered, Follower.owed]

theorem covered_ligated (sign : Ligature) (joined : Bool) (c : Char) :
    Covered (Follower.ligature sign joined).owed (ligated sign joined c) := by
  cases sign <;> simp only [ligated] <;> repeat' apply Covered.ite
  all_goals simp [Covered, Follower.owed]

theorem covered_joined? (next : Follower) (c : Char) : Covered next.owed (joined? next c) := by
  cases next with
  | joinedEmoji => exact covered_afterJoiner c
  | ligature sign joined =>
    refine .ite ?_ (.ite ?_ (covered_ligated sign joined c))
    · cases sign <;> simp [Covered, Follower.owed]
    · simp [Covered]
  | _ =>
    simp only [joined?]
    repeat' apply Covered.ite
    all_goals simp [Covered, Follower.owed]

theorem owed_select (x : Context) (s : Selectors) : (x.select s).follower.owed ≤ x.follower.owed := by
  have h := x.follower.owed_nonneg
  unfold Context.select
  split
  · exact Int.le_refl _
  · split
    · exact Int.le_refl _
    · exact h

theorem owed_withoutEmoji (x : Context) : x.withoutEmoji.follower.owed ≤ x.follower.owed := by
  have h := x.follower.owed_nonneg
  unfold Context.withoutEmoji
  split
  · split
    · exact Int.le_refl _
    · exact h
  · exact Int.le_refl _

theorem owed_unselect (x : Context) : x.unselect.follower.owed ≤ x.follower.owed := by
  have h := x.follower.owed_nonneg
  unfold Context.unselect
  split
  · exact Int.le_refl _
  · split
    · exact Int.le_refl _
    · exact h

theorem owed_stepUnselected (c : Char) (next : Context) :
    (stepUnselected c next).2.follower.owed ≤ next.follower.owed + (stepUnselected c next).1 := by
  have h := next.follower.owed_nonneg
  unfold stepUnselected
  split
  · split
    · exact Int.le_add_one h
    · split
      · simpa [Context.plain, Follower.owed] using h
      · exact Int.le_add_one h
  · split
    · rw [Int.add_zero]
      exact owed_select next _
    · split
      · exact Int.le_add_one h
      · split
        · exact Int.le_trans h (Int.le_add_of_nonneg_right (by decide))
        · have hu := owed_unselect next
          have hj := covered_joined? next.unselect.follower c
          split
          · rename_i n follower hn
            rw [hn] at hj
            exact Int.le_trans hj (Int.add_le_add_right hu n)
          · exact Int.le_trans (owed_lone c) (Int.le_add_of_nonneg_left h)

theorem owed_step (c : Char) (next : Context) :
    (step c next).2.follower.owed ≤ next.follower.owed + (step c next).1 := by
  unfold step
  split
  · refine Int.le_trans next.follower.owed_nonneg (Int.le_add_of_nonneg_right ?_)
    split <;> decide
  · exact Int.le_trans (owed_stepUnselected c _) (Int.add_le_add_right (owed_withoutEmoji next) _)

theorem owed_measure (cs : List Char) : (measure cs).2.follower.owed ≤ (measure cs).1 := by
  induction cs with
  | nil => decide
  | cons c rest ih =>
    have h := owed_step c (measure rest).2
    simp only [measure]
    omega

theorem measure_nonneg (cs : List Char) : 0 ≤ (measure cs).1 :=
  Int.le_trans (Follower.owed_nonneg _) (owed_measure cs)

/-- A character that takes one column whatever follows it, and that nothing before it can join. -/
def Apart (c : Char) : Prop := ∀ next, step c next = (1, .plain)

theorem apart_of_le {c : Char} (h : c.toNat ≤ 0xA0) (hn : c ≠ '\n') (hr : c ≠ '\r')
    (he : emojiStarters.contains c = false) : Apart c := by
  intro next
  simp [step, stepUnselected, h, hn, hr, he]

theorem apart_blank : Apart ' ' := apart_of_le (by decide) (by decide) (by decide) (by decide +kernel)

theorem apart_dash : Apart '-' := apart_of_le (by decide) (by decide) (by decide) (by decide +kernel)

theorem measure_append_cons {c : Char} (hc : Apart c) (l r : List Char) :
    measure (l ++ c :: r) = ((measure l).1 + (1 + (measure r).1), (measure l).2) := by
  induction l with
  | nil => simp [measure, hc (measure r).2]
  | cons x l ih => simp [measure, ih, Int.add_assoc]

theorem measure_append_replicate {c : Char} (hc : Apart c) {n : Nat} (hn : n ≠ 0) (l r : List Char) :
    (measure (l ++ (List.replicate n c ++ r))).1 = (measure l).1 + (n + (measure r).1) := by
  have hrun : ∀ n : Nat, (measure (List.replicate n c ++ r)).1 = n + (measure r).1 := by
    intro n
    induction n with
    | zero => simp
    | succ n ih =>
      have h := measure_append_cons hc [] (List.replicate n c ++ r)
      rw [List.replicate_succ, List.cons_append, ← List.nil_append (c :: _), h]
      simp only [measure, ih]
      omega
  obtain ⟨n, rfl⟩ := Nat.exists_eq_succ_of_ne_zero hn
  rw [List.replicate_succ, List.cons_append, measure_append_cons hc, hrun]
  simp only
  omega

end Columns

theorem columns_empty : columns "" = 0 := rfl

theorem columns_append_spaces {n : Nat} (hn : n ≠ 0) (a b : String) :
    columns (a ++ Table.spaces n ++ b) = columns a + n + columns b := by
  have h := Columns.measure_append_replicate Columns.apart_blank hn a.toList b.toList
  have ha := Columns.measure_nonneg a.toList
  have hb := Columns.measure_nonneg b.toList
  simp only [columns, Table.spaces, String.toList_append, String.toList_ofList, List.append_assoc, h]
  omega

theorem columns_append_spaces_end (a : String) (n : Nat) : columns (a ++ Table.spaces n) = columns a + n := by
  cases n with
  | zero => simp [Table.spaces]
  | succ n =>
    have h := columns_append_spaces n.succ_ne_zero a ""
    rwa [String.append_empty, columns_empty, Nat.add_zero] at h

theorem columns_dashes (n : Nat) : columns (.ofList (List.replicate n '-')) = n := by
  cases n with
  | zero => rfl
  | succ n =>
    have h := Columns.measure_append_replicate Columns.apart_dash n.succ_ne_zero [] []
    simp only [List.nil_append, List.append_nil, Columns.measure] at h
    simp only [columns, String.toList_ofList, h]
    omega

end CodecBench
