import CodecBench.Proofs.Columns
import Mathlib.Algebra.GroupWithZero.Nat
import Mathlib.Data.List.MinMax
/-!
The layout of tables. A line is a list of cells with the blanks after them, and a cell with its blanks takes the width
of its column; since there are blanks after all cells but the last, the columns of a line add up, and every cell
starts under the one above it (`Table.laid_out`). Palettes have no say in this.
-/

namespace CodecBench
namespace Palette

theorem render_append (p : Palette) (xs ys : List Span) : p.render (xs ++ ys) = p.render xs ++ p.render ys := by
  simp [render]

theorem render_cons (p : Palette) (s : Span) (xs : List Span) : p.render (s :: xs) = p.paint s ++ p.render xs := by
  simp [render]

theorem render_flatMap (p : Palette) {α : Type} (xs : List α) (f : α → List Span) :
    p.render (xs.flatMap f) = String.join (xs.map fun x => p.render (f x)) := by
  rw [← String.toList_inj]
  simp [render, String.toList_join, List.flatMap_assoc, List.flatMap_map, List.map_flatMap]

end Palette

structure Filled where
  tint : Tint
  cell : String
  blanks : Nat

namespace Filled

def text (f : Filled) : String := f.cell ++ Table.spaces f.blanks

def width (f : Filled) : Nat := columns f.cell + f.blanks

def span (f : Filled) : Span := ⟨some f.tint, f.text⟩

def texts (fs : List Filled) : String := String.join (fs.map text)

theorem columns_texts_append {fs : List Filled} (h : ∀ f ∈ fs, f.blanks ≠ 0) (s : String) :
    columns (texts fs ++ s) = (fs.map width).sum + columns s := by
  induction fs with
  | nil => simp [texts]
  | cons f fs ih =>
    have hf : f.blanks ≠ 0 := h f List.mem_cons_self
    have hs : texts (f :: fs) ++ s = f.cell ++ Table.spaces f.blanks ++ (texts fs ++ s) := by
      simp [texts, text, String.append_assoc]
    rw [hs, columns_append_spaces hf, ih fun g hg => h g (List.mem_cons_of_mem f hg), List.map_cons, List.sum_cons,
      width]
    omega

end Filled

def Palette.line (p : Palette) (fs : List Filled) : String :=
  String.join (fs.map fun f => p.opening f.tint ++ f.text ++ p.reset) ++ "\n"

namespace Table

def column (t : Table) (j : Nat) : List String :=
  (headers :: t.rows.map (·.cells)).map fun cells => cells.getD j ""

/-- A column is as wide as its widest cell, with a gap after all columns but the last. -/
def width (t : Table) (j : Nat) : Nat :=
  ((t.column j).map columns).foldr max 0 + if j < 4 then gap else 0

def start (t : Table) (j : Nat) : Nat := ((List.range j).map t.width).sum

def dashes (t : Table) : String := .ofList (List.replicate (t.start 5) '-')

theorem start_succ (t : Table) (j : Nat) : t.start (j + 1) = t.start j + t.width j := by
  simp [start, List.range_succ]

theorem columns_le_width {t : Table} {j : Nat} {cell : String} (h : cell ∈ t.column j) :
    columns cell + (if j < 4 then gap else 0) ≤ t.width j :=
  Nat.add_le_add_right (List.le_max_of_le' 0 (List.mem_map_of_mem h) (Nat.le_refl _)) _

theorem foldl_widest (rows : List Row) (f : Nat → Nat) :
    (rows.map (·.cells)).foldl (fun ws cells => List.zipWith (fun w c => max w (columns c)) ws cells)
        ((List.range 5).map f) =
      (List.range 5).map fun j => max (f j) ((rows.map fun r => columns (r.cells.getD j "")).foldr max 0) := by
  induction rows generalizing f with
  | nil => simp
  | cons r rows ih =>
    have hstep : List.zipWith (fun w c => max w (columns c)) ((List.range 5).map f) r.cells =
        (List.range 5).map fun j => max (f j) (columns (r.cells.getD j "")) := rfl
    rw [List.map_cons, List.foldl_cons, hstep, ih]
    simp [Nat.max_assoc]

/-- The widths are found in one pass over the rows. -/
theorem widths_eq (t : Table) : widths t.rows = (List.range 5).map t.width := by
  have hheaders : headers.map columns = (List.range 5).map fun j => columns (headers.getD j "") := rfl
  have hgaps : ∀ f : Nat → Nat,
      withGaps ((List.range 5).map f) = (List.range 5).map fun j => f j + if j < 4 then gap else 0 := fun _ => rfl
  rw [widths, widest, hheaders, foldl_widest, hgaps]
  simp [width, column, Function.comp_def]

def fill (t : Table) (cells : List (Tint × String)) : List Filled :=
  cells.mapIdx fun j x => ⟨x.1, x.2, if j < 4 then t.width j - columns x.2 else 0⟩

theorem map_fill (t : Table) (cells : List (Tint × String)) :
    (t.fill cells).map (fun f => (f.tint, f.cell)) = cells :=
  List.ext_getElem (by simp [fill]) fun i _ _ => by simp [fill]

theorem line_eq (t : Table) {cells : List (Tint × String)} (h : cells.length = 5) :
    line cells (widths t.rows) = (t.fill cells).map Filled.span ++ [newline] := by
  match cells, h with
  | [a, b, c, d, e], _ =>
    rw [widths_eq]
    simp [line, fill, Filled.span, Filled.text, spaces, List.range_succ]

theorem render_line (t : Table) (p : Palette) {cells : List (Tint × String)} (h : cells.length = 5) :
    p.render (line cells (widths t.rows)) = p.line (t.fill cells) := by
  rw [line_eq t h, Palette.render_append]
  simp [Palette.render, Palette.line, Palette.paint, Filled.span, newline, Function.comp_def]

theorem render_rule (t : Table) (p : Palette) : p.render (rule (widths t.rows)) = t.dashes ++ "\n" := by
  have hsum : (widths t.rows).foldr Nat.add 0 = t.start 5 := by
    rw [widths_eq]
    rfl
  simp [rule, hsum, Palette.render, Palette.paint, newline, dashes]

def Listed (t : Table) (cells : List (Tint × String)) : Prop :=
  cells.length = 5 ∧ ∀ j x, cells[j]? = some x → x.2 ∈ t.column j

theorem listed_headers (t : Table) : t.Listed (headers.map fun h => (.header, h)) := by
  refine ⟨rfl, fun j x hx => List.mem_map.2 ⟨headers, List.mem_cons_self, ?_⟩⟩
  obtain ⟨h, hh, rfl⟩ := Option.map_eq_some_iff.1 (List.getElem?_map ▸ hx)
  rw [List.getD_eq_getElem?_getD, hh, Option.getD_some]

theorem listed_cells {t : Table} {r : Row} (hr : r ∈ t.rows) :
    t.Listed (List.zip [.name, .value, .value, .value, .value] r.cells) := by
  refine ⟨rfl, fun j x hx => List.mem_map.2 ⟨r.cells, List.mem_cons_of_mem _ (List.mem_map_of_mem hr), ?_⟩⟩
  rw [List.getD_eq_getElem?_getD, (List.getElem?_zip_eq_some.1 hx).2, Option.getD_some]

/-- The cells of a line stand in the columns of a table: every cell but the last is filled up to the width of its
column, and starts where its column does. -/
structure Stands (t : Table) (fs : List Filled) : Prop where
  length : fs.length = 5
  filled : ∀ j < 4, ∀ f, fs[j]? = some f → gap ≤ f.blanks ∧ columns f.cell + f.blanks = t.width j
  last : ∀ f, fs[4]? = some f → f.blanks = 0
  starts : ∀ j ≤ 4, columns (Filled.texts (fs.take j)) = t.start j
  within : columns (Filled.texts fs) ≤ columns t.dashes

section Fill
variable {t : Table} {cells : List (Tint × String)} (h : t.Listed cells)
include h

theorem length_fill : (t.fill cells).length = 5 := by
  rw [fill, List.length_mapIdx, h.1]

theorem of_getElem?_fill {j : Nat} {f : Filled} (hf : (t.fill cells)[j]? = some f) :
    f.cell ∈ t.column j ∧ f.blanks = if j < 4 then t.width j - columns f.cell else 0 := by
  rw [fill, List.getElem?_mapIdx, Option.map_eq_some_iff] at hf
  obtain ⟨x, hx, rfl⟩ := hf
  exact ⟨h.2 j x hx, rfl⟩

theorem width_fill {j : Nat} (hj : j < 4) {f : Filled} (hf : (t.fill cells)[j]? = some f) :
    gap ≤ f.blanks ∧ columns f.cell + f.blanks = t.width j := by
  obtain ⟨hcell, hblanks⟩ := of_getElem?_fill h hf
  have hw := columns_le_width hcell
  rw [if_pos hj] at hw hblanks
  omega

theorem columns_take_append {j : Nat} (hj : j ≤ 4) (s : String) :
    columns (Filled.texts ((t.fill cells).take j) ++ s) = t.start j + columns s := by
  have hlen := length_fill h
  have hwidths : ((t.fill cells).take j).map Filled.width = (List.range j).map t.width := by
    refine List.ext_getElem (by simp [hlen]; omega) fun i hi _ => ?_
    rw [List.length_map, List.length_take] at hi
    have hlt : i < (t.fill cells).length := by omega
    have hw := (width_fill h (by omega) (List.getElem?_eq_getElem hlt)).2
    simpa [Filled.width] using hw
  have hblanks : ∀ f ∈ (t.fill cells).take j, f.blanks ≠ 0 := by
    intro f hf
    obtain ⟨i, hi, rfl⟩ := List.mem_take_iff_getElem.1 hf
    have hlt : i < (t.fill cells).length := by omega
    exact Nat.ne_zero_of_lt (width_fill h (by omega) (List.getElem?_eq_getElem hlt)).1
  rw [Filled.columns_texts_append hblanks, hwidths, start]

theorem stands_fill : t.Stands (t.fill cells) := by
  have hlen := length_fill h
  obtain ⟨f, hf⟩ : ∃ f, (t.fill cells)[4]? = some f := ⟨_, List.getElem?_eq_getElem (by omega)⟩
  obtain ⟨hcell, hlast⟩ := of_getElem?_fill h hf
  have hw := columns_le_width hcell
  rw [if_neg (by decide)] at hlast hw
  refine ⟨hlen, fun j hj f => width_fill h hj, fun g hg => ?_, fun j hj => ?_, ?_⟩
  · obtain rfl : f = g := Option.some_inj.1 (hf.symm.trans hg)
    exact hlast
  · have hstart := columns_take_append h hj ""
    rwa [String.append_empty, columns_empty, Nat.add_zero] at hstart
  · have hsplit : t.fill cells = (t.fill cells).take 4 ++ [f] :=
      calc t.fill cells = (t.fill cells).take 5 := (List.take_of_length_le (Nat.le_of_eq hlen)).symm
        _ = (t.fill cells).take 4 ++ [f] := by rw [List.take_add_one, hf, Option.toList_some]
    have htexts : Filled.texts (t.fill cells) = Filled.texts ((t.fill cells).take 4) ++ f.text :=
      calc Filled.texts (t.fill cells) = Filled.texts ((t.fill cells).take 4 ++ [f]) := congrArg _ hsplit
        _ = _ := by simp [Filled.texts]
    rw [htexts, columns_take_append h (Nat.le_refl 4), Filled.text, hlast, columns_append_spaces_end, dashes,
      columns_dashes, t.start_succ 4]
    exact Nat.add_le_add_left hw _

end Fill

end Table
end CodecBench
