import PlayTrace.Proofs.Grid.Pixel
import PlayTrace.Proofs.World.Observation

/-!
# Where things are in a sound world

A world reports where its sprites are in pixels. The avatar's cell is worked out from its position,
and the resources are sorted by their distance from a point of reference. Under binary
floating-point arithmetic each of these steps could overflow, but only in a world far larger than
the indices of a machine reach. `World.Measurable` excludes that; under exact arithmetic it says
nothing.

Where the arithmetic has numbers for all pixels of the world, what comes out is known: the avatar's
cell is the cell of the avatar.

## Main definitions

* `World.Measurable` — a machine can index the cells of the world
* `World.Resolved` — the arithmetic has numbers for the pixels of the world
* `World.Bounded` — every cell of the world lies within a power of two that arithmetic can bear

## Main results

* `World.Sound.avatarCell_ok`, `resourcesFrom_ok` — no fault in either arithmetic
* `World.Sound.avatarCell_eq` — the avatar's cell
-/

namespace PlayTrace

namespace World

variable {w v : World} {b : Nat}

/-! ### Bounds -/

/-- Machine arithmetic is used only on worlds whose cells a machine can index: it counts the rows of
a level, and the characters of a row, with signed integers of 64 bits. -/
def Measurable (w : World) : Prop :=
  w.precision = .binary64 → w.width ≤ 2 ^ 63 ∧ w.height ≤ 2 ^ 63

theorem Measurable.of_sameGame (h : Measurable w) (hv : SameGame w v) : Measurable v := by
  intro hp
  rw [hv.width, hv.height]
  exact h (hv.precision ▸ hp)

/-- The cells of the world are within `2 ^ b`, and arithmetic reaches well beyond. -/
structure Bounded (w : World) (b : Nat) : Prop where
  inside : ∀ c, w.inBounds c = true → c.Within b
  reaches : w.precision.Reaches (2 * b + 29)

theorem within_of_inBounds {c : Cell} (hx : w.width ≤ 2 ^ b) (hy : w.height ≤ 2 ^ b)
    (hc : w.inBounds c = true) : c.Within b := by
  obtain ⟨⟨hx₀, hx₁⟩, hy₀, hy₁⟩ := inBounds_iff.1 hc
  exact ⟨by rw [abs_of_nonneg hx₀]; omega, by rw [abs_of_nonneg hy₀]; omega⟩

/-- A world of any size is within some power of two, and exact arithmetic reaches everywhere. -/
theorem Measurable.exists_bounded (h : Measurable w) : ∃ b, Bounded w b := by
  have hpow : ∀ (n : Int) (b : Nat), n.toNat ≤ b → n ≤ 2 ^ b := by
    intro n b hb
    have hlt : n.toNat < 2 ^ b := hb.trans_lt Nat.lt_two_pow_self
    have hcast : ((n.toNat : Nat) : Int) < 2 ^ b := by exact_mod_cast hlt
    omega
  cases hp : w.precision with
  | exact =>
    refine ⟨max w.width.toNat w.height.toNat, ?_, by rw [hp]; trivial⟩
    intro c hc
    exact within_of_inBounds (hpow _ _ (le_max_left _ _)) (hpow _ _ (le_max_right _ _)) hc
  | binary64 =>
    obtain ⟨hx, hy⟩ := h hp
    refine ⟨63, fun c hc => within_of_inBounds hx hy hc, ?_⟩
    rw [hp]
    show 2 * 63 + 29 < 1023
    decide

/-! ### No fault -/

theorem Sound.positionOf_ok (hw : Sound w) {c : Cell} {m : Nat} (hc : c.Within m)
    (hm : w.precision.Reaches (m + 4)) : ∃ q, w.positionOf c = .ok q ∧ q.Within (m + 5) := by
  rw [positionOf, hw.blockSize]
  exact Position.ofCell_ok (by decide) hc hm

/-- The avatar has a cell, whatever the arithmetic. -/
theorem Sound.avatarCell_ok (hw : Sound w) (hb : Bounded w b) :
    ∃ c, w.avatarCell = .ok c ∧ c.Within (b + 5) := by
  obtain ⟨s, hs⟩ := hw.avatar
  have hcell := hb.inside _ (hw.inside _ (mem_entries_of_avatar? hs))
  obtain ⟨q, hq, hqw⟩ := hw.positionOf_ok hcell (hb.reaches.mono (by omega))
  have hblock : 0 < defaultBlockSize := by decide
  obtain ⟨c, hc, hcw⟩ := Position.toCell_ok hblock hqw
  refine ⟨c, ?_, hcw⟩
  rw [avatarCell, avatarPosition, hs]
  simp only [hq, ok_bind, hw.blockSize]
  exact hc

/-- The resources can be sorted by their distance from a place that is not too far out. -/
theorem Sound.resourcesFrom_ok (hw : Sound w) (hb : Bounded w b) {p : Position}
    (hp : p.Within (b + 11)) : ∃ found, w.resourcesFrom (some p) = .ok found := by
  have hfound : ∀ e ∈ w.ordered.filter fun e => w.resources.contains e.2.key,
      ∃ r : Resource, (do
        let q ← w.positionOf e.2.cell
        return (⟨e.2.key, q, ← q.squaredDistance w.precision p⟩ : Resource)) = .ok r := by
    intro e he
    rw [hw.ordered_eq] at he
    have hcell := hb.inside _ (hw.inside e (List.mem_filter.1 he).1)
    obtain ⟨q, hq, hqw⟩ := hw.positionOf_ok hcell (hb.reaches.mono (by omega))
    obtain ⟨d, hd⟩ :=
      Position.squaredDistance_ok (hqw.mono (by omega)) hp (hb.reaches.mono (by omega))
    refine ⟨⟨e.2.key, q, d⟩, ?_⟩
    rw [hq, ok_bind, hd]
    rfl
  obtain ⟨found, hmap⟩ := mapM_ok hfound
  refine ⟨found.mergeSort fun a b => !b.squaredDistance.below a.squaredDistance, ?_⟩
  rw [resourcesFrom]
  simp only [pure_bind]
  rw [hmap]
  rfl

/-! ### The avatar's cell -/

/-- Machine arithmetic is used only on worlds whose pixels it has numbers for: it counts them
exactly up to `2 ^ 53`. -/
def Resolved (w : World) : Prop :=
  w.precision = .binary64 →
    w.width * defaultBlockSize ≤ 2 ^ 53 ∧ w.height * defaultBlockSize ≤ 2 ^ 53

theorem Resolved.of_sameGame (h : Resolved w) (hv : SameGame w v) : Resolved v := by
  intro hp
  rw [hv.width, hv.height]
  exact h (hv.precision ▸ hp)

theorem Resolved.measurable (h : Resolved w) : Measurable w := by
  intro hp
  obtain ⟨hx, hy⟩ := h hp
  rw [defaultBlockSize] at hx hy
  omega

theorem resolved_of_exact (h : w.precision = .exact) : Resolved w := by
  intro hp
  rw [h] at hp
  cases hp

theorem Sound.avatarCell_eq (hw : Sound w) (hr : Resolved w) {s : Sprite}
    (hs : w.avatar? = some s) : w.avatarCell = .ok s.cell := by
  have hinside : w.inBounds s.cell = true := hw.inside _ (mem_entries_of_avatar? hs)
  obtain ⟨⟨hx, hx'⟩, hy, hy'⟩ := inBounds_iff.1 hinside
  rw [avatarCell, avatarPosition, hs]
  simp only [positionOf, hw.blockSize]
  refine Position.toCell_ofCell (by decide) fun hp => ?_
  obtain ⟨hwidth, hheight⟩ := hr hp
  rw [defaultBlockSize] at *
  exact ⟨by rw [abs_of_nonneg (by omega)]; omega, by rw [abs_of_nonneg (by omega)]; omega⟩

theorem Sound.avatarCell_exact (hw : Sound w) (hexact : w.precision = .exact) {s : Sprite}
    (hs : w.avatar? = some s) : w.avatarCell = .ok s.cell :=
  hw.avatarCell_eq (resolved_of_exact hexact) hs

end World

end PlayTrace
