/-!
Readers: steps through the bytes of a document that give a value and leave the rest, or stop at the
first flaw. No reader leaves more than it was given. A repeated reader uses up a byte each time it goes
on, so every reading ends.
-/

namespace CodecBench

/-- Why a document is refused: it is no JSON, it is JSON of another shape, or it ends too early. -/
inductive Flaw where
  | malformed
  | unsuitable
  | truncated
deriving DecidableEq, Repr

abbrev Bytes := List UInt8

def ascii (c : Char) : UInt8 := c.toNat.toUInt8

structure Reader (α : Type) where
  read : Bytes → Except Flaw (α × Bytes)
  length_le : ∀ {s a rest}, read s = .ok (a, rest) → rest.length ≤ s.length

namespace Reader
variable {α β σ : Type}

protected def pure (a : α) : Reader α where
  read s := .ok (a, s)
  length_le h := by cases h; exact Nat.le_refl _

protected def bind (x : Reader α) (f : α → Reader β) : Reader β where
  read s :=
    match x.read s with
    | .error flaw => .error flaw
    | .ok (a, rest) => (f a).read rest
  length_le h := by
    split at h
    · cases h
    · rename_i hx
      exact Nat.le_trans ((f _).length_le h) (x.length_le hx)

instance : Monad Reader where
  pure := Reader.pure
  bind := Reader.bind

def fail (flaw : Flaw) : Reader α where
  read _ := .error flaw
  length_le h := by cases h

def peek? : Reader (Option UInt8) where
  read s := .ok (s.head?, s)
  length_le h := by cases h; exact Nat.le_refl _

def next : Reader UInt8 where
  read s :=
    match s with
    | [] => .error .truncated
    | b :: rest => .ok (b, rest)
  length_le {s _ _} h := by
    cases s with
    | nil => cases h
    | cons b rest => cases h; exact Nat.le_succ _

theorem length_dropWhile_le (p : UInt8 → Bool) (s : Bytes) : (s.dropWhile p).length ≤ s.length :=
  (List.dropWhile_sublist p).length_le

def takeWhile (p : UInt8 → Bool) : Reader Bytes where
  read s := .ok (s.takeWhile p, s.dropWhile p)
  length_le {s _ _} h := by cases h; exact length_dropWhile_le p s

/-- Repeats a step, each time on the next byte that is not passed over, until it gives no further
state. -/
def loop (skip : UInt8 → Bool) (step : σ → UInt8 → Reader (Option σ)) (st : σ) (s : Bytes) :
    Except Flaw (σ × Bytes) :=
  match _hs : s.dropWhile skip with
  | [] => .error .truncated
  | b :: rest =>
    match _hr : (step st b).read rest with
    | .error flaw => .error flaw
    | .ok (none, rest') => .ok (st, rest')
    | .ok (some st', rest') => loop skip step st' rest'
termination_by s.length
decreasing_by
  have h := length_dropWhile_le skip s
  have h' := (step st b).length_le ‹_›
  rw [‹s.dropWhile skip = _›, List.length_cons] at h
  omega

theorem loop_eq (skip : UInt8 → Bool) (step : σ → UInt8 → Reader (Option σ)) (st : σ) (s : Bytes) :
    loop skip step st s =
      match s.dropWhile skip with
      | [] => .error .truncated
      | b :: rest =>
        match (step st b).read rest with
        | .error flaw => .error flaw
        | .ok (none, rest') => .ok (st, rest')
        | .ok (some st', rest') => loop skip step st' rest' := by
  rw [loop]
  split
  · rename_i h; rw [h]
  · rename_i b rest h
    rw [h]
    split <;> rename_i h' <;> simp only [h']

theorem length_le_of_loop {skip : UInt8 → Bool} {step : σ → UInt8 → Reader (Option σ)} {st r : σ}
    {s rest : Bytes} (h : loop skip step st s = .ok (r, rest)) : rest.length ≤ s.length := by
  fun_induction loop skip step st s with
  | case1 => cases h
  | case2 => cases h
  | case3 st s b rest₁ hs rest₂ hr =>
    cases h
    have h₁ := length_dropWhile_le skip s
    have h₂ := (step _ b).length_le hr
    rw [hs, List.length_cons] at h₁
    omega
  | case4 st s b rest₁ hs st' rest₂ hr ih =>
    have h₁ := length_dropWhile_le skip s
    have h₂ := (step _ b).length_le hr
    have h₃ := ih h
    rw [hs, List.length_cons] at h₁
    omega

def iterate (skip : UInt8 → Bool) (step : σ → UInt8 → Reader (Option σ)) (st : σ) : Reader σ where
  read := loop skip step st
  length_le := length_le_of_loop

theorem read_pure (a : α) (s : Bytes) : (pure a : Reader α).read s = .ok (a, s) := rfl

theorem read_bind (x : Reader α) (f : α → Reader β) (s : Bytes) :
    (x >>= f).read s =
      match x.read s with
      | .error flaw => .error flaw
      | .ok (a, rest) => (f a).read rest := rfl

theorem read_next_cons (b : UInt8) (s : Bytes) : next.read (b :: s) = .ok (b, s) := rfl

theorem read_takeWhile (p : UInt8 → Bool) (s : Bytes) :
    (takeWhile p).read s = .ok (s.takeWhile p, s.dropWhile p) := rfl

end Reader
end CodecBench
