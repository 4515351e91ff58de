import CodecBench.Proofs.Absence
import CodecBench.Proofs.Layout
/-!
Colours in the tables. All sequences of the palette begin with an escape, and no text of a table holds one unless its
title or a name does. So a sequence is never mistaken for another one or for a part of a text: without the sequences
the coloured tables are the plain ones, and what is coloured is one cell with its blanks
(`Report.colours_erased`).
-/

namespace CodecBench

/-- Takes sequences out of a text, one after the other. The number tells how much is left of the one at hand. -/
def erase (sequences : List (List Char)) : Nat → List Char → List Char
  | _, [] => []
  | n + 1, _ :: cs => erase sequences n cs
  | 0, c :: cs =>
    match sequences.find? fun s => !s.isEmpty && s.isPrefixOf (c :: cs) with
    | some s => erase sequences (s.length - 1) cs
    | none => c :: erase sequences 0 cs

namespace Palette

def sequences (p : Palette) : List (List Char) := [p.header, p.name, p.value, p.reset].map (·.toList)

def erased (p : Palette) (s : String) : String := .ofList (erase p.sequences 0 s.toList)

theorem exists_escape {s : List Char} (h : s ∈ ansi.sequences) : ∃ body, s = '\x1b' :: body ∧ '\x1b' ∉ body := by
  have hall : ∀ s ∈ ansi.sequences, s = '\x1b' :: s.tail ∧ '\x1b' ∉ s.tail := by decide
  exact ⟨s.tail, hall s h⟩

theorem opening_mem (tint : Tint) : (ansi.opening tint).toList ∈ ansi.sequences := by
  cases tint <;> decide

theorem reset_mem : ansi.reset.toList ∈ ansi.sequences := by decide

theorem opening_inj {t tint : Tint} {xs ys : List Char}
    (h : (ansi.opening t).toList ++ xs = (ansi.opening tint).toList ++ ys) : t = tint ∧ xs = ys := by
  cases t <;> cases tint <;> simp_all [opening, ansi]

theorem reset_ne {tint : Tint} {xs ys : List Char} :
    ansi.reset.toList ++ xs ≠ (ansi.opening tint).toList ++ ys := by
  cases tint <;> simp [opening, ansi]

section Erase

theorem erase_append {xs : List Char} (h : '\x1b' ∉ xs) (ys : List Char) :
    erase ansi.sequences 0 (xs ++ ys) = xs ++ erase ansi.sequences 0 ys := by
  induction xs with
  | nil => rfl
  | cons c xs ih =>
    rw [List.mem_cons, not_or] at h
    have hnone : (ansi.sequences.find? fun s => !s.isEmpty && s.isPrefixOf (c :: (xs ++ ys))) = none := by
      refine List.find?_eq_none.2 fun s hs => ?_
      obtain ⟨body, rfl, -⟩ := exists_escape hs
      simp [h.1]
    rw [List.cons_append, erase, hnone]
    simp only [ih h.2, List.cons_append]

theorem erase_opening (tint : Tint) (cs : List Char) :
    erase ansi.sequences 0 ((ansi.opening tint).toList ++ cs) = erase ansi.sequences 0 cs := by
  cases tint <;> rfl

theorem erase_reset (cs : List Char) :
    erase ansi.sequences 0 (ansi.reset.toList ++ cs) = erase ansi.sequences 0 cs := rfl

theorem paint_plain (s : Span) : plain.paint s = s.text := by
  obtain ⟨_ | tint, text⟩ := s
  · rfl
  · cases tint <;> simp [paint, opening, plain]

theorem erase_paint {s : Span} (h : '\x1b' ∉ s.text.toList) (cs : List Char) :
    erase ansi.sequences 0 ((ansi.paint s).toList ++ cs) = (plain.paint s).toList ++ erase ansi.sequences 0 cs := by
  rw [paint_plain]
  obtain ⟨_ | tint, text⟩ := s
  · exact erase_append h cs
  · simp only [paint, String.toList_append, List.append_assoc, erase_opening, erase_append h, erase_reset]

theorem erase_render {spans : List Span} (h : ∀ s ∈ spans, '\x1b' ∉ s.text.toList) :
    erase ansi.sequences 0 (ansi.render spans).toList = (plain.render spans).toList := by
  induction spans with
  | nil => rfl
  | cons s spans ih =>
    simp only [render_cons, String.toList_append, erase_paint (h s List.mem_cons_self),
      ih fun s hs => h s (List.mem_cons_of_mem _ hs)]

end Erase

section Occurrences
variable {before after : List Char} {tint : Tint}

theorem skip_text {xs ys : List Char} (h : '\x1b' ∉ xs)
    (heq : xs ++ ys = before ++ ((ansi.opening tint).toList ++ after)) :
    ∃ b, ys = b ++ ((ansi.opening tint).toList ++ after) := by
  obtain ⟨body, hopening, -⟩ := exists_escape (opening_mem tint)
  obtain ⟨b, -, hys⟩ | ⟨b, rfl, hb⟩ := List.append_eq_append_iff.1 heq
  · exact ⟨b, hys⟩
  · cases b with
    | nil => exact ⟨[], hb.symm⟩
    | cons c b =>
      rw [hopening] at hb
      obtain ⟨rfl, -⟩ := List.cons.inj hb
      simp at h

theorem skip_sequence {s ys : List Char} (hs : s ∈ ansi.sequences)
    (heq : s ++ ys = before ++ ((ansi.opening tint).toList ++ after)) :
    s ++ ys = (ansi.opening tint).toList ++ after ∨ ∃ b, ys = b ++ ((ansi.opening tint).toList ++ after) := by
  obtain ⟨body, rfl, hbody⟩ := exists_escape hs
  cases before with
  | nil => exact .inl heq
  | cons c before => exact .inr (skip_text hbody (List.cons.inj heq).2)

theorem exists_span_of_opening {spans : List Span} (h : ∀ s ∈ spans, '\x1b' ∉ s.text.toList)
    (heq : (ansi.render spans).toList = before ++ ((ansi.opening tint).toList ++ after)) :
    ∃ s ∈ spans, s.tint = some tint ∧ ∃ rest, after = s.text.toList ++ (ansi.reset.toList ++ rest) := by
  induction spans generalizing before with
  | nil =>
    obtain ⟨body, hopening, -⟩ := exists_escape (opening_mem tint)
    simp [render, hopening] at heq
  | cons s spans ih =>
    obtain ⟨htext, hspans⟩ := List.forall_mem_cons.1 h
    have hrest : (∃ b, (ansi.render spans).toList = b ++ ((ansi.opening tint).toList ++ after)) →
        ∃ s' ∈ s :: spans, s'.tint = some tint ∧ ∃ rest, after = s'.text.toList ++ (ansi.reset.toList ++ rest) := by
      rintro ⟨b, hb⟩
      obtain ⟨s', hs', hs⟩ := ih hspans hb
      exact ⟨s', List.mem_cons_of_mem _ hs', hs⟩
    obtain ⟨_ | t, text⟩ := s
    · rw [render_cons, paint, String.toList_append] at heq
      exact hrest (skip_text htext heq)
    · simp only [render_cons, paint, String.toList_append, List.append_assoc] at heq
      -- It opens this text, or else something after the text and its reset.
      obtain hhere | ⟨b, hb⟩ := skip_sequence (opening_mem t) heq
      · obtain ⟨rfl, hafter⟩ := opening_inj hhere
        exact ⟨_, List.mem_cons_self, rfl, _, hafter.symm⟩
      · obtain ⟨b, hb⟩ := skip_text htext hb
        obtain hreset | hb := skip_sequence reset_mem hb
        · exact absurd hreset reset_ne
        · exact hrest hb

theorem exists_opening_of_mem (p : Palette) {spans : List Span} {s : Span} (hs : s ∈ spans) (ht : s.tint = some tint) :
    ∃ before after, (p.render spans).toList = before ++ ((p.opening tint).toList ++ after) := by
  obtain ⟨l, r, rfl⟩ := List.append_of_mem hs
  refine ⟨(p.render l).toList, s.text.toList ++ (p.reset.toList ++ (p.render r).toList), ?_⟩
  simp [render_append, render_cons, paint, ht]

end Occurrences
end Palette

def Table.FreeOf (t : Table) (c : Char) : Prop :=
  (∀ title, t.title = some title → c ∉ title.toList) ∧ ∀ r ∈ t.rows, c ∉ r.name.toList

section Control
variable {c : Char} (hc : c.toNat < 0x20)
include hc

theorem notMem_of_control {s : List Char} (hs : s.all (0x20 ≤ ·.toNat)) : c ∉ s := by
  intro h
  have hd := List.all_eq_true.1 hs c h
  simp only [decide_eq_true_eq] at hd
  omega

theorem ne_of_control {d : Char} (hd : 0x20 ≤ d.toNat) : c ≠ d := by
  rintro rfl
  exact absurd hd (Nat.not_le_of_lt hc)

theorem isDigit_of_control : c.isDigit = false := by
  rw [Bool.eq_false_iff]
  intro h
  obtain ⟨hlo, -⟩ : 48 ≤ c.toNat ∧ c.toNat ≤ 57 := by
    simpa [Char.isDigit, UInt32.le_iff_toNat_le] using h
  omega

theorem notMem_fixedText (places : Nat) (x : Float) : c ∉ (fixedText places x).toList := by
  have hdigit := isDigit_of_control hc
  have hsign : c ≠ '-' := ne_of_control hc (by decide)
  unfold fixedText
  cases Binary.ofFloat x with
  | nan =>
    change c ∉ "NaN".toList
    exact notMem_of_control hc (by decide)
  | infinite negative =>
    have hinf : c ∉ ['i', 'n', 'f'] := notMem_of_control hc (by decide)
    cases negative <;> simpa [Binary.text, Binary.signed, hsign] using hinf
  | finite negative significand exponent =>
    have htext (n : Nat) : c ∉ Decimal.withPoint (Nat.toDigits 10 n) places :=
      Decimal.notMem_withPoint hdigit (ne_of_control hc (by decide)) (notMem_toDigits hdigit n) places
    cases negative <;> simp [Binary.text, Binary.signed, hsign, htext]

theorem Row.notMem_absent : c ∉ absent.toList := notMem_of_control hc (by decide)

theorem Row.notMem_percent (r : Option Float) : c ∉ (percent r).toList := by
  cases r with
  | none => exact notMem_absent hc
  | some x =>
    have hsign : c ∉ "%".toList := notMem_of_control hc (by decide)
    rw [percent, String.toList_append, List.mem_append, not_or]
    exact ⟨notMem_fixedText hc 2 _, hsign⟩

theorem Row.notMem_time (t : Option Float) : c ∉ (time t).toList := by
  cases t with
  | none => exact notMem_absent hc
  | some x => exact notMem_fixedText hc 0 x

theorem Row.notMem_cells {r : Row} (hr : c ∉ r.name.toList) : ∀ cell ∈ r.cells, c ∉ cell.toList := by
  simp [cells, hr, notMem_percent hc, notMem_time hc]

theorem Table.notMem_headers : ∀ cell ∈ headers, c ∉ cell.toList := by
  have hall : ∀ cell ∈ headers, cell.toList.all (0x20 ≤ ·.toNat) := by decide
  exact fun cell hcell => notMem_of_control hc (hall cell hcell)

theorem Table.notMem_spaces (n : Nat) : c ∉ (spaces n).toList := by
  have hblank : c ≠ ' ' := ne_of_control hc (by decide)
  simp [spaces, hblank]

theorem Table.notMem_line {cells : List (Tint × String)} {ws : List Nat} (h : ∀ x ∈ cells, c ∉ x.2.toList) {s : Span}
    (hs : s ∈ line cells ws) : s = newline ∨ c ∉ s.text.toList := by
  induction cells, ws using line.induct with
  | case1 => exact .inl (List.mem_singleton.1 hs)
  | case2 tint cell _ =>
    obtain rfl | hs := List.mem_cons.1 hs
    · exact .inr (h (tint, cell) List.mem_cons_self)
    · exact .inl (List.mem_singleton.1 hs)
  | case3 tint cell rest ws hne ih =>
    rw [line.eq_3 _ _ _ _ hne] at hs
    obtain rfl | hs := List.mem_cons.1 hs
    · rw [String.toList_append, List.mem_append, not_or]
      exact .inr ⟨h (tint, cell) List.mem_cons_self, notMem_spaces hc _⟩
    · exact ih (fun x hx => h x (List.mem_cons_of_mem _ hx)) hs

/-- Control characters in a table come from its title and its names, or end a line. -/
theorem Table.notMem_spans {t : Table} (h : ∀ r ∈ t.rows, c ∉ r.name.toList) {s : Span} (hs : s ∈ t.spans)
    (hnewline : s ≠ newline) (htitle : s.tint = none → t.title ≠ some s.text) : c ∉ s.text.toList := by
  have hrule (hs : s ∈ rule (widths t.rows)) : c ∉ s.text.toList := by
    have hdash : c ≠ '-' := ne_of_control hc (by decide)
    obtain rfl | hs := List.mem_cons.1 hs
    · simp [hdash]
    · exact absurd (List.mem_singleton.1 hs) hnewline
  have hline {cells ws} (hcells : ∀ x ∈ cells, c ∉ x.2.toList) (hs : s ∈ line cells ws) : c ∉ s.text.toList :=
    (notMem_line hc hcells hs).resolve_left hnewline
  simp only [spans, List.cons_append, List.mem_cons, List.mem_append, List.mem_flatMap] at hs
  obtain hs | ((((hs | hs) | hs) | hs) | ⟨r, hr, hs⟩) | hs := hs
  · exact absurd hs hnewline
  · cases ht : t.title with
    | none =>
      rw [ht] at hs
      cases hs
    | some title =>
      rw [ht] at hs htitle
      obtain rfl | hs := List.mem_cons.1 hs
      · exact absurd rfl (htitle rfl)
      · exact absurd (List.mem_singleton.1 hs) hnewline
  · exact hrule hs
  · refine hline (fun x hx => ?_) hs
    obtain ⟨header, hheader, rfl⟩ := List.mem_map.1 hx
    exact notMem_headers hc header hheader
  · exact hrule hs
  · exact hline (fun x hx => r.notMem_cells hc (h r hr) x.2 (List.of_mem_zip hx).2) hs
  · exact hrule hs

end Control

/-- What is coloured. Without the sequences of its palette the coloured text of a report is the plain one. After every
sequence that opens comes the reset, before another sequence and, unless a name has a line break, before the end of
the line. -/
theorem Report.colours_erased (r : Report) (perCategory : Bool)
    (h : ∀ t ∈ r.tables perCategory, t.FreeOf '\x1b') :
    Palette.ansi.erased (r.text perCategory .ansi) = r.text perCategory .plain ∧
    ∀ before tint after,
      (r.text perCategory .ansi).toList = before ++ ((Palette.ansi.opening tint).toList ++ after) →
      ∃ inside rest, after = inside ++ (Palette.ansi.reset.toList ++ rest) ∧ '\x1b' ∉ inside ∧
        ((∀ t ∈ r.tables perCategory, ∀ row ∈ t.rows, '\n' ∉ row.name.toList) → '\n' ∉ inside) := by
  have hspans : ∀ s ∈ (r.tables perCategory).flatMap (·.spans), '\x1b' ∉ s.text.toList := by
    intro s hs
    obtain ⟨t, ht, hs⟩ := List.mem_flatMap.1 hs
    by_cases hnewline : s = Table.newline
    · rw [hnewline]
      decide
    · by_cases htitle : t.title = some s.text
      · exact (h t ht).1 s.text htitle
      · exact Table.notMem_spans (by decide) (h t ht).2 hs hnewline fun _ => htitle
  refine ⟨?_, fun before tint after heq => ?_⟩
  · rw [Palette.erased, text, Palette.erase_render hspans, String.ofList_toList, text]
  · obtain ⟨s, hs, htint, rest, hafter⟩ := Palette.exists_span_of_opening hspans heq
    refine ⟨s.text.toList, rest, hafter, hspans s hs, fun hnames => ?_⟩
    obtain ⟨t, ht, hs⟩ := List.mem_flatMap.1 hs
    refine Table.notMem_spans (by decide) (hnames t ht) hs ?_ fun hnone => ?_
    · rintro rfl
      cases htint
    · rw [htint] at hnone
      cases hnone

def Report.single : Report where
  categories := [⟨⟨"a", none, "ns", ["X"], [⟨"a", .encode, "X", 44.0, "ns", none⟩],
    [⟨"a", .decode, "X", 44.0, "ns", none⟩]⟩, ⟨[1.0], [1.0]⟩⟩]
  overall := [⟨"X", some ⟨44.0, 1.0, 1⟩, some ⟨44.0, 1.0, 1⟩⟩]
  comparisons := []
  diagnostics := []

theorem Report.colours_erased_single :
    (∀ t ∈ single.tables true, t.FreeOf '\x1b') ∧
    Palette.ansi.erased (single.text true .ansi) = single.text true .plain ∧
    ∃ before inside rest, (single.text true .ansi).toList =
      before ++ ((Palette.ansi.opening .header).toList ++ (inside ++ (Palette.ansi.reset.toList ++ rest))) ∧
      '\x1b' ∉ inside ∧ '\n' ∉ inside := by
  have hnames : ∀ t ∈ single.tables true, ∀ row ∈ t.rows, '\x1b' ∉ row.name.toList ∧ '\n' ∉ row.name.toList := by
    decide +kernel
  have hfree : ∀ t ∈ single.tables true, t.FreeOf '\x1b' := by
    intro t ht
    refine ⟨?_, fun row hrow => (hnames t ht row hrow).1⟩
    obtain rfl | rfl : t = _ ∨ t = _ := by simpa [tables, single] using ht
    · rintro title ⟨⟩
      decide
    · rintro title ⟨⟩
  have hheader : ∃ s ∈ (single.tables true).flatMap (·.spans), s.tint = some .header := by decide +kernel
  obtain ⟨s, hs, htint⟩ := hheader
  obtain ⟨before, after, htext⟩ := Palette.ansi.exists_opening_of_mem hs htint
  obtain ⟨herased, hclosed⟩ := colours_erased single true hfree
  obtain ⟨inside, rest, rfl, hesc, hbreak⟩ := hclosed _ _ _ htext
  exact ⟨hfree, herased, before, inside, rest, htext, hesc,
    hbreak fun t ht row hrow => (hnames t ht row hrow).2⟩

end CodecBench
