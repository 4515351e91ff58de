/-!
Benchmark names: a category, a slash, and what was done with which algorithm, as in
`twitter/Encode_RapidJson`. The text of a name (`Name.text`) and its reading (`Name.read`) stand
side by side; a text that is not a name has one `Name.Fault`, the first of four checks to fail.
-/

namespace CodecBench

/-- What a benchmark measures. Anything but encoding and decoding is kept as its tag. -/
inductive Kind where
  | encode
  | decode
  | other (tag : String)
deriving DecidableEq, Repr

namespace Kind

def ofTag (tag : String) : Kind :=
  if tag = "Encode" then .encode else if tag = "Decode" then .decode else .other tag

def tag : Kind → String
  | .encode => "Encode"
  | .decode => "Decode"
  | .other tag => tag

/-- Encoding and decoding are reported on, other kinds are set aside. -/
def isMeasured : Kind → Bool
  | .other _ => false
  | _ => true

@[simp] theorem tag_ofTag (t : String) : (ofTag t).tag = t := by
  unfold ofTag
  split
  · simp_all [tag]
  · split <;> simp_all [tag]

end Kind

structure Name where
  category : String
  kind : Kind
  algorithm : String
deriving DecidableEq, Repr

namespace Name

def text (n : Name) : String :=
  n.category ++ "/" ++ n.kind.tag ++ "_" ++ n.algorithm

inductive Fault where
  | slashes
  | underscores
  | emptyCategory
  | emptyAlgorithm
deriving DecidableEq, Repr

def Fault.reason : Fault → String
  | .slashes => "expected exactly one `/`"
  | .underscores => "expected `<kind>_<algorithm>` after the category"
  | .emptyCategory => "empty category"
  | .emptyAlgorithm => "empty algorithm"

/-- The texts on both sides of the separator, if it occurs exactly once. -/
def splitOnce? (sep : Char) : List Char → Option (List Char × List Char)
  | [] => none
  | c :: rest =>
    if c = sep then
      if sep ∈ rest then none else some ([], rest)
    else
      (splitOnce? sep rest).map fun p => (c :: p.1, p.2)

theorem splitOnce?_eq_some_iff {sep : Char} {s a b : List Char} :
    splitOnce? sep s = some (a, b) ↔ s = a ++ sep :: b ∧ sep ∉ a ∧ sep ∉ b := by
  induction s generalizing a with
  | nil => simp [splitOnce?]
  | cons c rest ih =>
    unfold splitOnce?
    by_cases h : c = sep
    · subst h
      by_cases hr : c ∈ rest
      · cases a with
        | nil => simp [hr]; rintro rfl; exact hr
        | cons d a => simp [hr]; rintro rfl; simp
      · cases a with
        | nil => simp [hr]; rintro rfl; exact hr
        | cons d a => simp [hr]; rintro rfl; simp
    · cases a with
      | nil => simp [h]
      | cons d a =>
        simp [h, ih]
        constructor
        · rintro ⟨⟨rfl, ha, hb⟩, rfl⟩; exact ⟨⟨rfl, rfl⟩, ⟨fun e => h e.symm, ha⟩, hb⟩
        · rintro ⟨⟨rfl, rfl⟩, ⟨-, ha⟩, hb⟩; exact ⟨⟨rfl, ha, hb⟩, rfl⟩

/-- Reads a text as a name. The separators are checked before the parts. -/
def read (s : String) : Except Fault Name :=
  match splitOnce? '/' s.toList with
  | none => .error .slashes
  | some (category, rest) =>
    match splitOnce? '_' rest with
    | none => .error .underscores
    | some (tag, algorithm) =>
      if category = [] then .error .emptyCategory
      else if algorithm = [] then .error .emptyAlgorithm
      else .ok ⟨.ofList category, .ofTag (.ofList tag), .ofList algorithm⟩

end Name
end CodecBench
