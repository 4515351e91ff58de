import CodecBench.Measurement
import CodecBench.Proofs.Lists
/-!
The grammar of names. A name is put together from a category, a tag and an algorithm (`Name.Parts`), and which
parts may be put together is said of the parts alone (`Name.Parts.Admitted`). A text either has no single slash, or
no single underscore behind it, or is put together from separated parts (`Name.exists_parts`); so reading finds the
parts of a text if it has any, they are its only ones (`Name.read_exactly`), and the first thing that is wrong with
any other text is told (`Name.read_iff`).
-/

namespace CodecBench
namespace Name

theorem splitOnce?_eq_none_iff {sep : Char} {s : List Char} :
    splitOnce? sep s = none ↔ s.count sep ≠ 1 := by
  induction s with
  | nil => simp [splitOnce?]
  | cons c rest ih =>
    rw [splitOnce?, List.count_cons]
    by_cases h : c = sep
    · by_cases hr : sep ∈ rest
      · simp [h, hr, List.count_eq_zero]
      · simp [h, hr, List.count_eq_zero]
    · simp [h, ih]

structure Parts where
  category : String
  tag : String
  algorithm : String

namespace Parts

def text (p : Parts) : String := p.category ++ "/" ++ p.tag ++ "_" ++ p.algorithm

def name (p : Parts) : Name := ⟨p.category, .ofTag p.tag, p.algorithm⟩

/-- Parts whose text has no separators but the two between them. The category may hold underscores. -/
structure Separated (p : Parts) : Prop where
  slash_notMem_category : '/' ∉ p.category.toList
  slash_notMem_tag : '/' ∉ p.tag.toList
  underscore_notMem_tag : '_' ∉ p.tag.toList
  slash_notMem_algorithm : '/' ∉ p.algorithm.toList
  underscore_notMem_algorithm : '_' ∉ p.algorithm.toList

/-- Separated parts of which the tag alone may be empty. -/
structure Admitted (p : Parts) : Prop extends p.Separated where
  category_ne_empty : p.category ≠ ""
  algorithm_ne_empty : p.algorithm ≠ ""

instance (p : Parts) : Decidable p.Separated :=
  decidable_of_iff ('/' ∉ p.category.toList ∧ '/' ∉ p.tag.toList ∧ '_' ∉ p.tag.toList ∧
      '/' ∉ p.algorithm.toList ∧ '_' ∉ p.algorithm.toList)
    ⟨fun h => ⟨h.1, h.2.1, h.2.2.1, h.2.2.2.1, h.2.2.2.2⟩, fun h => ⟨h.1, h.2, h.3, h.4, h.5⟩⟩

instance (p : Parts) : Decidable p.Admitted :=
  decidable_of_iff (p.Separated ∧ p.category ≠ "" ∧ p.algorithm ≠ "")
    ⟨fun h => ⟨h.1, h.2.1, h.2.2⟩, fun h => ⟨h.1, h.2, h.3⟩⟩

theorem text_name (p : Parts) : p.name.text = p.text := by
  simp [name, Name.text, text]

theorem name_inj {p q : Parts} (h : p.name = q.name) : p = q := by
  obtain ⟨hc, hk, ha⟩ := Name.mk.inj h
  have ht : p.tag = q.tag := by simpa using congrArg Kind.tag hk
  cases p
  cases q
  simp_all

theorem toList_text (p : Parts) :
    p.text.toList =
      p.category.toList ++ '/' :: (p.tag.toList ++ '_' :: p.algorithm.toList) := by
  simp [text, String.toList_append]

theorem Separated.splitOnce? {p : Parts} (h : p.Separated) :
    splitOnce? '/' p.text.toList = some (p.category.toList, p.tag.toList ++ '_' :: p.algorithm.toList) ∧
      Name.splitOnce? '_' (p.tag.toList ++ '_' :: p.algorithm.toList) =
        some (p.tag.toList, p.algorithm.toList) := by
  have hs : '/' ∉ p.tag.toList ++ '_' :: p.algorithm.toList := by
    simp [h.slash_notMem_tag, h.slash_notMem_algorithm]
  exact ⟨splitOnce?_eq_some_iff.2 ⟨p.toList_text, h.slash_notMem_category, hs⟩,
    splitOnce?_eq_some_iff.2 ⟨rfl, h.underscore_notMem_tag, h.underscore_notMem_algorithm⟩⟩

theorem Separated.read {p : Parts} (h : p.Separated) :
    read p.text =
      if p.category = "" then .error .emptyCategory
      else if p.algorithm = "" then .error .emptyAlgorithm
      else .ok p.name := by
  obtain ⟨hs, ht⟩ := h.splitOnce?
  simp only [Name.read, hs, ht, String.toList_eq_nil_iff, String.ofList_toList, name]

theorem Admitted.read {p : Parts} (h : p.Admitted) : Name.read p.text = .ok p.name := by
  rw [h.toSeparated.read, if_neg h.category_ne_empty, if_neg h.algorithm_ne_empty]

theorem Admitted.text_inj {p q : Parts} (hp : p.Admitted) (hq : q.Admitted) (h : p.text = q.text) : p = q :=
  name_inj (Except.ok.inj (hp.read.symm.trans (h ▸ hq.read)))

end Parts

/-- The first thing that is wrong with a text that is no name. -/
inductive Flawed : String → Fault → Prop where
  | slashes {s} (h : s.toList.count '/' ≠ 1) : Flawed s .slashes
  | underscores {category rest : String} (hc : '/' ∉ category.toList) (hr : '/' ∉ rest.toList)
      (h : rest.toList.count '_' ≠ 1) : Flawed (category ++ "/" ++ rest) .underscores
  | emptyCategory {p : Parts} (hp : p.Separated) (h : p.category = "") : Flawed p.text .emptyCategory
  | emptyAlgorithm {p : Parts} (hp : p.Separated) (hc : p.category ≠ "") (h : p.algorithm = "") :
      Flawed p.text .emptyAlgorithm

theorem exists_parts (s : String) :
    s.toList.count '/' ≠ 1 ∨
    (∃ category rest : String, s = category ++ "/" ++ rest ∧ '/' ∉ category.toList ∧ '/' ∉ rest.toList ∧
      rest.toList.count '_' ≠ 1) ∨
    ∃ p : Parts, p.Separated ∧ s = p.text := by
  cases hs : splitOnce? '/' s.toList with
  | none => exact .inl (splitOnce?_eq_none_iff.1 hs)
  | some halves =>
    obtain ⟨category, rest⟩ := halves
    obtain ⟨hs, hc, hr⟩ := splitOnce?_eq_some_iff.1 hs
    refine .inr ?_
    cases ht : splitOnce? '_' rest with
    | none =>
      refine .inl ⟨.ofList category, .ofList rest, String.toList_inj.1 ?_, ?_⟩
      · simpa [String.toList_append] using hs
      · simpa using ⟨hc, hr, splitOnce?_eq_none_iff.1 ht⟩
    | some halves =>
      obtain ⟨tag, algorithm⟩ := halves
      obtain ⟨rfl, htu, hau⟩ := splitOnce?_eq_some_iff.1 ht
      obtain ⟨hts, has⟩ : '/' ∉ tag ∧ '/' ∉ algorithm := by simpa using hr
      refine .inr ⟨⟨.ofList category, .ofList tag, .ofList algorithm⟩, ?_, String.toList_inj.1 ?_⟩
      · constructor <;> simpa
      · simpa [Parts.toList_text] using hs

theorem Flawed.read {s : String} {fault : Fault} (h : Flawed s fault) : read s = .error fault := by
  cases h with
  | slashes h => rw [Name.read, splitOnce?_eq_none_iff.2 h]
  | @underscores category rest hc hr h =>
    have hs : splitOnce? '/' (category ++ "/" ++ rest).toList = some (category.toList, rest.toList) :=
      splitOnce?_eq_some_iff.2 ⟨by simp [String.toList_append], hc, hr⟩
    simp only [Name.read, hs, splitOnce?_eq_none_iff.2 h]
  | emptyCategory hp h => rw [hp.read, if_pos h]
  | emptyAlgorithm hp hc h => rw [hp.read, if_neg hc, if_pos h]

theorem admitted_or_flawed (s : String) :
    (∃ p : Parts, p.Admitted ∧ s = p.text) ∨ ∃ fault, Flawed s fault := by
  obtain h | ⟨category, rest, rfl, hc, hr, h⟩ | ⟨p, hp, rfl⟩ := exists_parts s
  · exact .inr ⟨_, .slashes h⟩
  · exact .inr ⟨_, .underscores hc hr h⟩
  · by_cases hc : p.category = ""
    · exact .inr ⟨_, .emptyCategory hp hc⟩
    · by_cases ha : p.algorithm = ""
      · exact .inr ⟨_, .emptyAlgorithm hp hc ha⟩
      · exact .inl ⟨p, ⟨hp, hc, ha⟩, rfl⟩

theorem read_iff (s : String) :
    (∀ n, read s = .ok n ↔ ∃ p : Parts, p.Admitted ∧ s = p.text ∧ n = p.name) ∧
      ∀ fault, read s = .error fault ↔ Flawed s fault := by
  refine outcome_iff (fun n h => ?_) (fun fault => Flawed.read) ?_
  · obtain ⟨p, hp, rfl, rfl⟩ := h
    exact hp.read
  · obtain ⟨p, hp, hs⟩ | hf := admitted_or_flawed s
    · exact .inl ⟨p.name, p, hp, hs, rfl⟩
    · exact .inr hf

theorem read_eq_ok_iff_parts {s : String} {n : Name} :
    read s = .ok n ↔ ∃ p : Parts, p.Admitted ∧ s = p.text ∧ n = p.name :=
  (read_iff s).1 n

theorem exists_read_iff {s : String} : (∃ n, read s = .ok n) ↔ ∃ p : Parts, p.Admitted ∧ s = p.text := by
  simp only [read_eq_ok_iff_parts]
  constructor
  · intro h
    obtain ⟨n, p, hp, hs, -⟩ := h
    exact ⟨p, hp, hs⟩
  · intro h
    obtain ⟨p, hp, hs⟩ := h
    exact ⟨p.name, p, hp, hs, rfl⟩

theorem text_of_read {s : String} {n : Name} (h : read s = .ok n) : n.text = s := by
  obtain ⟨p, -, rfl, rfl⟩ := read_eq_ok_iff_parts.1 h
  exact p.text_name

/-- Names are read from the texts that are put together from admitted parts, which are then their only parts; a name
has one text, and any other text is rejected under what it is. -/
theorem read_exactly (s : String) :
    ((∃ n, read s = .ok n) ↔ ∃ p : Parts, p.Admitted ∧ s = p.text) ∧
    (∀ p : Parts, p.Admitted → s = p.text →
      read s = .ok ⟨p.category, .ofTag p.tag, p.algorithm⟩ ∧
        ∀ q : Parts, q.Admitted → s = q.text → q = p) ∧
    (∀ n, read s = .ok n → n.text = s ∧ ∀ t, read t = .ok n → t = s) ∧
    ((¬ ∃ p : Parts, p.Admitted ∧ s = p.text) → ∃ fault, Flawed s fault ∧ read s = .error fault ∧
      ∀ e : Entry, e.name = s → Measurement.ofEntry e = .error (.malformedName s fault)) := by
  refine ⟨exists_read_iff, fun p hp hs => ?_, fun n h => ?_, fun hno => ?_⟩
  · subst hs
    exact ⟨hp.read, fun q hq hpq => hq.text_inj hp hpq.symm⟩
  · exact ⟨text_of_read h, fun t ht => (text_of_read ht).symm.trans (text_of_read h)⟩
  · obtain ⟨fault, hf⟩ := (admitted_or_flawed s).resolve_left hno
    refine ⟨fault, hf, hf.read, fun e he => ?_⟩
    rw [Measurement.ofEntry, he, hf.read]

/-- A category with an underscore and no tag, and a second underscore where there may be one only. -/
theorem read_exactly_blankTag :
    read "json_parsing/_é" = .ok ⟨"json_parsing", .other "", "é"⟩ ∧
    (∀ t, read t = .ok ⟨"json_parsing", .other "", "é"⟩ → t = "json_parsing/_é") ∧
    Measurement.ofEntry ⟨"a/Encode_X_mean", some 1.0, some "ns", none, none⟩ =
      .error (.malformedName "a/Encode_X_mean" .underscores) := by
  obtain ⟨-, hparts, hname, -⟩ := read_exactly "json_parsing/_é"
  obtain ⟨hread, -⟩ := hparts ⟨"json_parsing", "", "é"⟩ (by decide) (by decide)
  have hmean : Flawed ("a" ++ "/" ++ "Encode_X_mean") .underscores :=
    .underscores (by decide) (by decide) (by decide)
  have hu : read "a/Encode_X_mean" = .error .underscores := hmean.read
  obtain ⟨hok, -, -, hrejected⟩ := read_exactly "a/Encode_X_mean"
  obtain ⟨fault, -, hf, he⟩ := hrejected (by simp [← hok, hu])
  obtain rfl : fault = .underscores := Except.error.inj (hf.symm.trans hu)
  exact ⟨hread, (hname _ hread).2, he _ rfl⟩

end Name
end CodecBench
