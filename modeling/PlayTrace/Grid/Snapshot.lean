import PlayTrace.Fault

/-!
# Snapshots of a grid

A snapshot lists, for every cell of a rectangular grid, the keys of the sprites in it. No cell of a
snapshot is empty: one without sprites holds the background key. Columns come first, so the keys of
cell `(x, y)` are entry `y` of column `x`.

An observation is what a game reports, where a cell without sprites is simply empty.
-/

namespace PlayTrace

/-- The key that stands for an empty cell. -/
def backgroundKey : String := "background"

/-- What a game reports of its grid: for every column, for every cell, the keys in it. -/
abbrev Observation := List (List (List String))

/-- The keys of the sprites in every cell of a rectangular grid. -/
structure Snapshot where
  width : Nat
  height : Nat
  /-- the columns from left to right, each from top to bottom -/
  columns : List (List (List String))
  width_pos : 0 < width
  height_pos : 0 < height
  length_columns : columns.length = width
  length_column : ∀ col ∈ columns, col.length = height
  cell_ne_nil : ∀ col ∈ columns, ∀ keys ∈ col, keys ≠ []

namespace Snapshot

/-- The first thing wrong with a column, if anything is. -/
def columnFault? (height : Int) (col : List (List String)) : Option Fault :=
  if (col.length : Int) ≠ height then some .wrongHeight
  else if col.any List.isEmpty then some .emptyCell
  else none

/-- The first thing wrong with the measures and columns of a would-be snapshot. -/
def fault? (width height : Int) (columns : List (List (List String))) : Option Fault :=
  if width < 1 || height < 1 then some .emptyGrid
  else if (columns.length : Int) ≠ width then some .wrongWidth
  else columns.findSome? (columnFault? height)

theorem columnFault?_eq_none_iff {height : Int} {col : List (List String)} :
    columnFault? height col = none ↔ (col.length : Int) = height ∧ ∀ keys ∈ col, keys ≠ [] := by
  unfold columnFault?
  split
  · simp_all
  · split
    · rename_i h₁ h₂
      obtain ⟨keys, hmem, hkeys⟩ := List.any_eq_true.1 h₂
      simp only [reduceCtorEq, false_iff, not_and, Classical.not_forall]
      exact fun _ => ⟨keys, hmem, fun h => h (List.isEmpty_iff.1 hkeys)⟩
    · rename_i h₁ h₂
      simp only [ne_eq, Classical.not_not] at h₁
      simp only [h₁, true_and, true_iff]
      exact fun keys hmem hnil => h₂ (List.any_eq_true.2 ⟨keys, hmem, by simp [hnil]⟩)

/-- Nothing is wrong exactly when the measures are positive and the columns fit them and leave no
cell empty. -/
theorem fault?_eq_none_iff {width height : Int} {columns : List (List (List String))} :
    fault? width height columns = none ↔
      1 ≤ width ∧ 1 ≤ height ∧ (columns.length : Int) = width ∧
        ∀ col ∈ columns, (col.length : Int) = height ∧ ∀ keys ∈ col, keys ≠ [] := by
  unfold fault?
  split
  · rename_i h
    simp only [Bool.or_eq_true, decide_eq_true_eq] at h
    simp only [reduceCtorEq, false_iff]
    omega
  · rename_i h
    simp only [Bool.or_eq_true, decide_eq_true_eq, not_or] at h
    split
    · simp_all
    · simp only [List.findSome?_eq_none_iff, columnFault?_eq_none_iff]
      constructor
      · intro hc
        exact ⟨by omega, by omega, by simp_all, hc⟩
      · exact fun hc => hc.2.2.2

/-- The snapshot with the given measures and columns. -/
def make? (width height : Int) (columns : List (List (List String))) : Except Fault Snapshot :=
  match h : fault? width height columns with
  | some f => .error f
  | none =>
    have ok := fault?_eq_none_iff.1 h
    .ok {
      width := width.toNat
      height := height.toNat
      columns
      width_pos := by omega
      height_pos := by omega
      length_columns := by omega
      length_column := fun col hcol => by have := (ok.2.2.2 col hcol).1; omega
      cell_ne_nil := fun col hcol => (ok.2.2.2 col hcol).2 }

/-- A cell of an observation as a snapshot shows it. -/
def shownKeys (keys : List String) : List String :=
  if keys.isEmpty then [backgroundKey] else keys

/-- The snapshot of an observation. -/
def ofObservation (o : Observation) : Except Fault Snapshot :=
  match o with
  | [] | [] :: _ => .error .emptyObservation
  | col :: _ => make? o.length col.length (o.map fun c => c.map shownKeys)

/-- The position that an index names in a list of length `n`: a negative index counts from the
end. -/
def position? (n : Nat) (i : Int) : Option Nat :=
  if 0 ≤ i then if i < n then some i.toNat else none
  else if -n ≤ i then some (i + n).toNat else none

/-- The keys at a place, whose coordinates count from the end when they are negative. -/
def keysAt (s : Snapshot) (c : Cell) : Except Fault (List String) :=
  match (position? s.width c.x).bind fun i => s.columns[i]? with
  | none => .error .outside
  | some col =>
    match (position? col.length c.y).bind fun j => col[j]? with
    | none => .error .outside
    | some keys => .ok keys

/-- Whether a cell lies inside the grid. -/
def inBounds (s : Snapshot) (c : Cell) : Bool :=
  0 ≤ c.x && c.x < s.width && 0 ≤ c.y && c.y < s.height

/-- The keys of the cell in column `x` and row `y`. -/
def keys (s : Snapshot) (x y : Nat) : List String :=
  ((s.columns[x]?.getD [])[y]?).getD []

/-- The cells of a grid of the given measures, row by row from left to right. -/
def cellsOf (width height : Nat) : List Cell :=
  (List.range height).flatMap fun (y : Nat) => (List.range width).map fun (x : Nat) => ⟨x, y⟩

/-- The cells of the grid, row by row from left to right. -/
def cells (s : Snapshot) : List Cell := cellsOf s.width s.height

/-- The cells with their keys, row by row from left to right. -/
def rowMajor (s : Snapshot) : List (Cell × List String) :=
  (List.range s.height).flatMap fun (y : Nat) =>
    (List.range s.width).map fun (x : Nat) => (⟨x, y⟩, s.keys x y)

/-- How often a key occurs in the grid. -/
def count (s : Snapshot) (key : String) : Nat :=
  (s.columns.flatMap List.flatten).count key

end Snapshot

end PlayTrace
