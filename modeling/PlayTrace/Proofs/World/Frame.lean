import PlayTrace.Proofs.World.Observation

/-!
# Which cells a step touches

A step that leaves the avatar where it is leaves every cell as it is. A step that moves it touches
two cells: the one it leaves, where everything else stays, and the one it enters. `World.shownAt` is
what the observation shows of one cell, and the snapshot of a sound world shows just that.

## Main definitions

* `World.shownAt` — the keys that are shown in a cell

## Main results

* `World.spritesAt_arrive` — the sprites in a cell that is not entered
* `World.Sound.spritesAt_advance` — the cells that a step touches
* `World.Sound.rowMajor_picture` — a snapshot shows the cells one by one
-/

namespace PlayTrace

namespace World

variable {w : World} {s : Sprite} {c : Cell} {a : Action}

/-- The sprites in a cell, apart from the avatar. -/
def othersAt (w : World) (c : Cell) : List (Int × Sprite) :=
  (w.spritesAt c).filter fun e => e.1 ≠ w.avatarId

/-- What is shown in a cell. -/
def shownAt (w : World) (c : Cell) : List String :=
  Snapshot.shownKeys ((w.spritesAt c).map fun e => e.2.key)

/-! ### Moves -/

/-- The avatar is in its own cell only. -/
theorem othersAt_of_ne (hs : w.avatar? = some s) (hc : c ≠ s.cell) :
    w.othersAt c = w.spritesAt c := by
  refine List.filter_eq_self.2 fun e he => ?_
  obtain ⟨hmem, hcell⟩ := List.mem_filter.1 he
  refine decide_eq_true fun havatar => hc ?_
  rw [← of_decide_eq_true hcell, eq_avatar_of_fst hs hmem havatar]

/-- The sprites in a cell that the avatar does not enter are those that were there before, without
the avatar. -/
theorem spritesAt_arrive (hs : w.avatar? = some s) {target : Cell} (hc : c ≠ target) :
    (w.arrive s target).spritesAt c = w.othersAt c := by
  have hkept : ∀ e ∈ w.sprites.entries,
      (decide ((w.relocate s target e).2.cell = c) && !w.isLoot target e) =
        (decide (e.1 ≠ w.avatarId) && decide (e.2.cell = c)) := by
    intro e _
    by_cases havatar : e.1 = w.avatarId
    · have hgone : ¬ target = c := fun h => hc h.symm
      simp [relocate, havatar, hgone]
    · rw [relocate, if_neg havatar, decide_eq_true havatar, Bool.true_and]
      by_cases hcell : e.2.cell = c
      · simp [isLoot, hcell, hc]
      · rw [decide_eq_false hcell, Bool.false_and]
  have hothers : ∀ e ∈ w.othersAt c, w.relocate s target e = e := fun e he =>
    if_neg (of_decide_eq_true (List.mem_filter.1 he).2)
  rw [spritesAt, entries_arrive hs, List.filter_map, List.filter_filter]
  calc (w.sprites.entries.filter _).map (w.relocate s target)
      = (w.othersAt c).map (w.relocate s target) := by
        rw [othersAt, spritesAt, List.filter_filter]
        exact congrArg _ (List.filter_congr hkept)
    _ = w.othersAt c := by rw [List.map_congr_left hothers, List.map_id']

/-! ### Steps -/

/-- **The cells that a step touches.** Either the avatar stays where it is, and every cell is as it
was; or it moves to a neighbour that admits it, without turning, and in every other cell all but the
avatar stays. -/
theorem Sound.spritesAt_advance (hw : Sound w) (hended : w.ended = false) (hs : w.avatar? = some s)
    (a : Action) :
    ∃ t, (w.advance a).avatar? = some t ∧
      ((t.cell = s.cell ∧ ∀ c, (w.advance a).spritesAt c = w.spritesAt c) ∨
        ∃ d, a = .move d ∧ t.cell = s.cell.neighbour d ∧
          w.admits (s.cell.neighbour d) = true ∧ (w.advance a).orientation = w.orientation ∧
          ∀ c, c ≠ t.cell → (w.advance a).spritesAt c = w.othersAt c) := by
  obtain ⟨v, hv, hadvance⟩ := hw.exists_effect hended a
  have hspritesAt : ∀ c, (w.advance a).spritesAt c = v.spritesAt c := by
    intro c
    rw [hadvance, spritesAt, sprites_expire, spritesAt]
  rw [hadvance, avatar?_expire, orientation_expire, ← hadvance]
  rcases hv.stays_or_arrives with hstays | ⟨d, t, rfl, ht, hadmits, rfl⟩
  · rw [hstays] at hspritesAt
    rw [hstays]
    exact ⟨s, hs, .inl ⟨rfl, hspritesAt⟩⟩
  · obtain rfl : s = t := Option.some.inj (hs.symm.trans ht)
    refine ⟨_, avatar?_arrive ht (Cell.neighbour_ne s.cell d).symm,
      .inr ⟨d, rfl, rfl, hadmits, orientation_arrive _ s _, ?_⟩⟩
    intro c hc
    rw [hspritesAt, spritesAt_arrive ht hc]
    rfl

/-! ### Snapshots -/

theorem Sound.keysIn_picture (hw : Sound w) (hc : c ∈ hw.picture.cells) :
    hw.picture.keysIn c = w.shownAt c := by
  obtain ⟨y, hy, hrow⟩ := List.mem_flatMap.1 hc
  obtain ⟨x, hx, rfl⟩ := List.mem_map.1 hrow
  have hx' : x < w.width.toNat := List.mem_range.1 hx
  have hy' : y < w.height.toNat := List.mem_range.1 hy
  simp [Snapshot.keysIn, Snapshot.keys, picture, seen, hx', hy', shownAt]

/-- **A snapshot shows the cells one by one.** -/
theorem Sound.rowMajor_picture (hw : Sound w) :
    hw.picture.rowMajor = hw.picture.cells.map fun c => (c, w.shownAt c) := by
  rw [Snapshot.rowMajor_eq]
  exact List.map_congr_left fun c hc => by rw [hw.keysIn_picture hc]

/-- A snapshot can be asked for the keys in a cell. -/
theorem Sound.keysAt_picture (hw : Sound w) (hc : c ∈ hw.picture.cells) :
    hw.picture.keysAt c = .ok (w.shownAt c) := by
  rw [Snapshot.keysAt_of_mem_cells hc, hw.keysIn_picture hc]

end World

end PlayTrace
