import PlayTrace.Grid.Snapshot

/-!
# The cells of a snapshot

A snapshot keeps its keys column by column, and is read in other ways: cell by cell with a place
that may count from the end, row by row, and as one heap of keys. For the cells of the grid these
ways agree.

## Main results

* `Snapshot.mem_cells_iff` — the cells are the places inside the grid
* `Snapshot.keysAt_of_mem_cells`, `Snapshot.rowMajor_eq` — the keys of a cell, alone and row by row
* `Snapshot.count_pos_iff` — a key occurs in the grid if and only if it occurs in a cell
-/

namespace PlayTrace

namespace Snapshot

variable {s : Snapshot} {c : Cell} {key : String}

theorem position?_of_lt {n : Nat} {i : Int} (h : 0 ≤ i) (hlt : i < n) :
    position? n i = some i.toNat := by
  rw [position?, if_pos h, if_pos hlt]

theorem make?_eq_ok {width height : Int} {columns : List (List (List String))} (s : Snapshot)
    (h : fault? width height columns = none) (hwidth : width.toNat = s.width)
    (hheight : height.toNat = s.height) (hcolumns : columns = s.columns) :
    make? width height columns = .ok s := by
  unfold make?
  split
  · rename_i f hf
    rw [h] at hf
    cases hf
  · obtain ⟨w, k, cols, _, _, _, _, _⟩ := s
    subst hwidth hheight hcolumns
    rfl

/-! ### Cells -/

theorem inBounds_iff :
    s.inBounds c = true ↔ (0 ≤ c.x ∧ c.x < s.width) ∧ 0 ≤ c.y ∧ c.y < s.height := by
  simp only [inBounds, Bool.and_eq_true, decide_eq_true_eq, and_assoc]

theorem mem_cells_iff : c ∈ s.cells ↔ s.inBounds c = true := by
  obtain ⟨x, y⟩ := c
  simp only [cells, cellsOf, List.mem_flatMap, List.mem_map, List.mem_range, Cell.mk.injEq,
    inBounds_iff]
  constructor
  · rintro ⟨j, hj, i, hi, rfl, rfl⟩
    omega
  · rintro ⟨⟨hx, hx'⟩, hy, hy'⟩
    exact ⟨y.toNat, by omega, x.toNat, by omega, by omega, by omega⟩

/-! ### Keys -/

/-- The keys in a cell of a snapshot are those that its columns list. -/
theorem keysAt_eq {x y : Nat} (hx : x < s.width) (hy : y < s.height) :
    s.keysAt ⟨x, y⟩ = .ok (s.keys x y) := by
  have hcolumns : x < s.columns.length := by rwa [s.length_columns]
  have hcolumn : s.columns[x].length = s.height :=
    s.length_column _ (List.getElem_mem hcolumns)
  have hx' : position? s.width x = some x := position?_of_lt (by omega) (by omega)
  have hy' : position? s.height y = some y := position?_of_lt (by omega) (by omega)
  simp [keysAt, keys, hx', hy', hcolumns, hcolumn, hy]

/-- The keys of a cell, whose coordinates are not negative in a grid. -/
def keysIn (s : Snapshot) (c : Cell) : List String := s.keys c.x.toNat c.y.toNat

theorem keysAt_of_mem_cells (h : c ∈ s.cells) : s.keysAt c = .ok (s.keysIn c) := by
  obtain ⟨⟨hx, hx'⟩, hy, hy'⟩ := inBounds_iff.1 (mem_cells_iff.1 h)
  have hcell : c = ⟨c.x.toNat, c.y.toNat⟩ := by
    rw [Int.toNat_of_nonneg hx, Int.toNat_of_nonneg hy]
  rw [keysIn, ← keysAt_eq (by omega) (by omega), ← hcell]

/-- Row by row the keys of the cells are listed. -/
theorem rowMajor_eq (s : Snapshot) : s.rowMajor = s.cells.map fun c => (c, s.keysIn c) := by
  rw [rowMajor, cells, cellsOf, List.map_flatMap]
  simp only [List.map_map]
  rfl

theorem keys_eq_getElem {x y : Nat} (hx : x < s.columns.length) (hy : y < s.columns[x].length) :
    s.keys x y = s.columns[x][y] := by
  simp [keys, hx, hy]

/-- **A key occurs in the grid** if and only if it occurs in a cell. -/
theorem count_pos_iff : 0 < s.count key ↔ ∃ c ∈ s.cells, key ∈ s.keysIn c := by
  rw [count, List.count_pos_iff, List.mem_flatMap]
  constructor
  · rintro ⟨col, hcol, hkey⟩
    obtain ⟨ks, hks, hkey⟩ := List.mem_flatten.1 hkey
    obtain ⟨x, hx, rfl⟩ := List.getElem_of_mem hcol
    obtain ⟨y, hy, rfl⟩ := List.getElem_of_mem hks
    have hheight := s.length_column _ hcol
    refine ⟨⟨x, y⟩, mem_cells_iff.2 (inBounds_iff.2 ?_), ?_⟩
    · rw [s.length_columns] at hx
      simp only
      omega
    · rwa [keysIn, Int.toNat_natCast, Int.toNat_natCast, keys_eq_getElem hx hy]
  · rintro ⟨c, hc, hkey⟩
    obtain ⟨⟨hx, hx'⟩, hy, hy'⟩ := inBounds_iff.1 (mem_cells_iff.1 hc)
    have hcolumn : c.x.toNat < s.columns.length := by
      rw [s.length_columns]
      omega
    have hcol := List.getElem_mem hcolumn
    have hrow : c.y.toNat < s.columns[c.x.toNat].length := by
      rw [s.length_column _ hcol]
      omega
    rw [keysIn, keys_eq_getElem hcolumn hrow] at hkey
    exact ⟨_, hcol, List.mem_flatten.2 ⟨_, List.getElem_mem hrow, hkey⟩⟩

end Snapshot

end PlayTrace
