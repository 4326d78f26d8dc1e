import PlayTrace.Proofs.Grid.Snapshot
import PlayTrace.Proofs.Success
import PlayTrace.Proofs.World.Sound

/-!
# What a sound world shows

A world is observed by sorting its sprites by number and putting each into the cell that its
coordinates name, where a negative coordinate would count from the end. In a sound world the sprites
are sorted already and no coordinate is negative, so an observation never fails, and it shows in
every cell just the sprites that stand there.

The sprites of a key can then be counted in either way, over the world or over the cells of its
snapshot. The background key is the exception: an empty cell shows one, which no sprite accounts
for.

## Main definitions

* `World.seen` — the keys in every cell
* `World.Sound.picture` — the snapshot of a sound world

## Main results

* `World.Sound.snapshot_eq` — a sound world can be observed
* `World.Sound.count_picture` — counting sprites and counting keys
-/

namespace PlayTrace

namespace World

variable {w : World}

/-! ### Observing -/

/-- The keys in every cell, as they stand in the world. -/
def seen (w : World) : Observation :=
  (List.range w.width.toNat).map fun (x : Nat) =>
    (List.range w.height.toNat).map fun (y : Nat) => (w.spritesAt ⟨x, y⟩).map fun e => e.2.key

theorem Sound.ordered_eq (hw : Sound w) : w.ordered = w.sprites.entries :=
  List.mergeSort_of_pairwise (hw.ordered.imp fun h => decide_eq_true (Int.le_of_lt h))

theorem inBounds_iff {c : Cell} :
    w.inBounds c = true ↔ (0 ≤ c.x ∧ c.x < w.width) ∧ 0 ≤ c.y ∧ c.y < w.height := by
  simp only [inBounds, Bool.and_eq_true, decide_eq_true_eq, and_assoc]

theorem Sound.placed_eq (hw : Sound w) {e : Int × Sprite} (he : e ∈ w.sprites.entries) :
    w.placed e.2 = .ok (e.2.cell.x.toNat, e.2.cell.y.toNat, e.2.key) := by
  obtain ⟨⟨hx, hx'⟩, hy, hy'⟩ := inBounds_iff.1 (hw.inside e he)
  rw [placed, Snapshot.position?_of_lt hx (by omega), Snapshot.position?_of_lt hy (by omega)]

/-- Picking a column and then a row is picking a cell. -/
theorem Sound.filter_placed (hw : Sound w) (x y : Nat) :
    ((((w.sprites.entries.map fun e => (e.2.cell.x.toNat, e.2.cell.y.toNat, e.2.key)).filter
      fun p => p.1 = x).filter fun p => p.2.1 = y).map fun p => p.2.2) =
      (w.spritesAt ⟨x, y⟩).map fun e => e.2.key := by
  rw [List.filter_filter, List.filter_map, List.map_map, spritesAt]
  congr 1
  apply List.filter_congr
  intro e he
  obtain ⟨⟨hx, -⟩, hy, -⟩ := inBounds_iff.1 (hw.inside e he)
  obtain ⟨n, key, cx, cy⟩ := e
  simp only at hx hy
  rw [Bool.eq_iff_iff]
  simp only [Function.comp_apply, Bool.and_eq_true, decide_eq_true_eq, Cell.mk.injEq]
  omega

theorem Sound.observation_eq (hw : Sound w) : w.observation = .ok w.seen := by
  rw [observation, hw.ordered_eq, mapM_eq_ok_map fun e he => hw.placed_eq he, ok_bind]
  simp only [hw.filter_placed]
  rfl

/-- The snapshot of a sound world. -/
def Sound.picture (hw : Sound w) : Snapshot where
  width := w.width.toNat
  height := w.height.toNat
  columns := w.seen.map fun c => c.map Snapshot.shownKeys
  width_pos := by have := hw.width_pos; omega
  height_pos := by have := hw.height_pos; omega
  length_columns := by simp [seen]
  length_column := by
    intro col hcol
    simp only [seen, List.map_map, List.mem_map] at hcol
    obtain ⟨x, -, rfl⟩ := hcol
    simp
  cell_ne_nil := by
    intro col hcol keys hkeys
    obtain ⟨c, -, rfl⟩ := List.mem_map.1 hcol
    obtain ⟨k, -, rfl⟩ := List.mem_map.1 hkeys
    unfold Snapshot.shownKeys
    split
    · simp
    · rename_i h
      exact fun hnil => h (by simp [hnil])

/-- **A sound world can be observed.** -/
theorem Sound.snapshot_eq (hw : Sound w) : w.snapshot = .ok hw.picture := by
  have hwidth := hw.width_pos
  have hheight := hw.height_pos
  rw [snapshot, hw.observation_eq, ok_bind]
  obtain ⟨n, hn⟩ : ∃ n, w.width.toNat = n + 1 := ⟨w.width.toNat - 1, by omega⟩
  obtain ⟨m, hm⟩ : ∃ m, w.height.toNat = m + 1 := ⟨w.height.toNat - 1, by omega⟩
  have hlength : w.seen.length = w.width.toNat := by simp [seen]
  unfold Snapshot.ofObservation
  split
  · rename_i heq
    rw [heq] at hlength
    simp at hlength
    omega
  · rename_i heq
    rw [seen, hn, List.range_succ_eq_map, List.map_cons, hm, List.range_succ_eq_map] at heq
    simp at heq
  · rename_i col rest hcol heq
    have hcolumn : col.length = w.height.toNat := by
      have hmem : col ∈ w.seen := heq ▸ List.mem_cons_self
      obtain ⟨x, -, rfl⟩ := List.mem_map.1 hmem
      simp
    refine Snapshot.make?_eq_ok hw.picture (Snapshot.fault?_eq_none_iff.2 ?_) ?_ ?_ rfl
    · refine ⟨by omega, by omega, by simp, fun c hc => ⟨?_, hw.picture.cell_ne_nil c hc⟩⟩
      rw [hcolumn, hw.picture.length_column c hc]
      rfl
    · rw [hlength]
      rfl
    · rw [hcolumn]
      rfl

/-! ### Counting -/

theorem countP_lt_succ {α : Type} (l : List α) (f : α → Nat) (q : α → Bool) (n : Nat) :
    (l.countP fun a => decide (f a < n + 1) && q a) =
      (l.countP fun a => decide (f a < n) && q a) + l.countP fun a => decide (f a = n) && q a := by
  induction l with
  | nil => rfl
  | cons a l ih =>
    simp only [List.countP_cons, ih]
    cases q a with
    | false => simp
    | true =>
      simp only [Bool.and_true, decide_eq_true_eq]
      split <;> split <;> split <;> omega

/-- Elements whose value lies below a bound are counted value by value. -/
theorem count_flatMap_range {α β : Type} [BEq β] {l : List α} {f : α → Nat} {q : α → Bool}
    {g : Nat → List β} {b : β}
    (hg : ∀ i, (g i).count b = l.countP fun a => decide (f a = i) && q a) (n : Nat) :
    ((List.range n).flatMap g).count b = l.countP fun a => decide (f a < n) && q a := by
  induction n with
  | zero => simp
  | succ n ih =>
    rw [List.range_succ, List.flatMap_append, List.count_append, ih, countP_lt_succ, ← hg]
    simp

/-- Showing the background instead of nothing does not change how often another key occurs. -/
theorem count_shownKeys {key : String} (hkey : key ≠ backgroundKey) (keys : List String) :
    (Snapshot.shownKeys keys).count key = keys.count key := by
  unfold Snapshot.shownKeys
  split
  · rename_i h
    rw [List.isEmpty_iff.1 h, List.count_nil, List.count_eq_zero, List.mem_singleton]
    exact hkey
  · rfl

/-- The sprites of a key in a cell, found by row, then by column. -/
theorem Sound.count_spritesAt (hw : Sound w) {key : String} (hkey : key ≠ backgroundKey)
    (x y : Nat) :
    (Snapshot.shownKeys ((w.spritesAt ⟨x, y⟩).map fun e => e.2.key)).count key =
      w.sprites.entries.countP fun e => decide (e.2.cell.y.toNat = y) &&
        (decide (e.2.cell.x.toNat = x) && decide (e.2.key = key)) := by
  rw [count_shownKeys hkey, List.count_eq_countP, List.countP_map, spritesAt, List.countP_filter]
  apply List.countP_congr
  intro e he
  obtain ⟨⟨hx, -⟩, hy, -⟩ := inBounds_iff.1 (hw.inside e he)
  obtain ⟨n, k, cx, cy⟩ := e
  simp only at hx hy
  have hcell : (cx = x ∧ cy = y) ↔ (cy.toNat = y ∧ cx.toNat = x) := by omega
  simp only [Function.comp_apply, Bool.and_eq_true, decide_eq_true_eq, beq_iff_eq, Cell.mk.injEq,
    hcell, and_assoc, and_comm]

/-- **Counting in a picture.** A snapshot shows as many of a key as there are sprites. -/
theorem Sound.count_picture (hw : Sound w) {key : String} (hkey : key ≠ backgroundKey) :
    hw.picture.count key = w.keyCount key := by
  have hcolumn : ∀ x : Nat,
      ((List.range w.height.toNat).flatMap fun (y : Nat) =>
        Snapshot.shownKeys ((w.spritesAt ⟨x, y⟩).map fun e => e.2.key)).count key =
      w.sprites.entries.countP fun e =>
        decide (e.2.cell.x.toNat = x) && decide (e.2.key = key) := by
    intro x
    rw [count_flatMap_range (hw.count_spritesAt hkey x)]
    apply List.countP_congr
    intro e he
    obtain ⟨-, hy, hy'⟩ := inBounds_iff.1 (hw.inside e he)
    have hlt : e.2.cell.y.toNat < w.height.toNat := by omega
    rw [decide_eq_true hlt, Bool.true_and]
  have hgrid : ((List.range w.width.toNat).flatMap fun (x : Nat) =>
      (List.range w.height.toNat).flatMap fun (y : Nat) =>
        Snapshot.shownKeys ((w.spritesAt ⟨x, y⟩).map fun e => e.2.key)).count key =
      w.keyCount key := by
    rw [count_flatMap_range hcolumn, keyCount]
    apply List.countP_congr
    intro e he
    obtain ⟨⟨hx, hx'⟩, -⟩ := inBounds_iff.1 (hw.inside e he)
    have hlt : e.2.cell.x.toNat < w.width.toNat := by omega
    rw [decide_eq_true hlt, Bool.true_and]
  rw [← hgrid, Snapshot.count]
  simp only [picture, seen, List.flatMap_def, List.map_map, Function.comp_def]

end World

end PlayTrace
