/-!
Values that are read from nested text, with the number of layers that they are nested in. Several things
in a row are a layer around each of them.
-/

namespace CodecBench

structure Nested (α : Type) where
  value : α
  depth : Nat

namespace Nested
variable {α β : Type}

def leaf (a : α) : Nested α := ⟨a, 0⟩

def map (f : α → β) (x : Nested α) : Nested β := ⟨f x.value, x.depth⟩

def wrap (x : Nested α) : Nested α := ⟨x.value, x.depth + 1⟩

def wrapBoth (f : α → α → β) (x y : Nested α) : Nested β :=
  ⟨f x.value y.value, max x.depth y.depth + 1⟩

def row (join : List α → β) (xs : List (Nested α)) : Nested β :=
  ⟨join (xs.map (·.value)),
    (xs.map (·.depth)).foldl max 0 + if xs.length ≤ 1 then 0 else 1⟩

end Nested
end CodecBench
