import PlayTrace.Grid.Pixel
import PlayTrace.Proofs.Number.Integers
import PlayTrace.Proofs.Number.Magnitude

/-!
# Pixel positions

Readings of the arithmetic of pixel positions. Under exact arithmetic the distance between the
positions of two cells is zero exactly when they are the same cell. Where the arithmetic has numbers
for the pixels, the position of a cell leads back to the cell. Under either arithmetic, positions of
cells that are not too far out, and the distances between them, are computed without a fault.

## Main results

* `Position.toCell_ofCell` — from a cell to its position and back
* `Position.squaredDistance_exact`, `Position.offset_eq_zero_iff` — distances between cells
* `Cell.along_ofDirection` — along a direction lies the neighbour
* `Orientation.isSame_ofDirection`, `ofDirection_inj` — orientations tell the directions apart
* `Position.ofCell_ok`, `toCell_ok`, `squaredDistance_ok` — no fault in either arithmetic
-/

namespace PlayTrace

namespace Position

/-! ### Exact arithmetic -/

theorem ofCell_exact (block : Int) (c : Cell) :
    ofCell .exact block c =
      .ok ⟨.finite ((c.x * block : Int) : Rat), .finite ((c.y * block : Int) : Rat)⟩ := rfl

theorem truncateRat_intCast (n : Int) : Number.truncateRat n = n := by
  rw [Number.truncateRat, Rat.num_intCast, Rat.den_intCast, Nat.cast_one, Int.tdiv_one]

theorem cellCoordinate_exact {block : Int} (hblock : block ≠ 0) (n : Int) :
    cellCoordinate block (.finite ((n * block : Int) : Rat)) = .ok n := by
  simp only [cellCoordinate, Number.truncate, truncateRat_intCast, mapError_ok, ok_bind,
    if_neg hblock, Int.mul_fdiv_cancel n hblock]
  rfl

/-- **From a cell to its position and back**, if the position is not rounded. -/
theorem toCell_ofCell {p : Precision} {block : Int} (hblock : block ≠ 0) {c : Cell}
    (h : p = .binary64 → |c.x * block| < 2 ^ 53 ∧ |c.y * block| < 2 ^ 53) :
    (ofCell p block c >>= toCell block) = .ok c := by
  rw [ofCell, Precision.ofInt_eq fun hp => (h hp).1, Precision.ofInt_eq fun hp => (h hp).2]
  simp only [mapError_ok, ok_bind, pure_bind, toCell, cellCoordinate_exact hblock]
  rfl

/-- The square of the distance between the positions of two cells. -/
def offset (block : Int) (c d : Cell) : Rat :=
  ((c.x * block : Int) - (d.x * block : Int) : Rat) * ((c.x * block : Int) - (d.x * block : Int)) +
    ((c.y * block : Int) - (d.y * block : Int) : Rat) * ((c.y * block : Int) - (d.y * block : Int))

theorem squaredDistance_exact (block : Int) (c d : Cell) :
    squaredDistance .exact
        ⟨.finite ((c.x * block : Int) : Rat), .finite ((c.y * block : Int) : Rat)⟩
        ⟨.finite ((d.x * block : Int) : Rat), .finite ((d.y * block : Int) : Rat)⟩ =
      .ok (.finite (offset block c d)) := rfl

/-- Only a cell itself has distance zero from it. -/
theorem offset_eq_zero_iff {block : Int} (hblock : block ≠ 0) (c d : Cell) :
    offset block c d = 0 ↔ c = d := by
  have hcoordinate : ∀ m n : Int,
      ((m * block : Int) : Rat) - ((n * block : Int) : Rat) = 0 ↔ m = n := by
    intro m n
    rw [sub_eq_zero, Int.cast_inj, Int.mul_eq_mul_right_iff hblock]
  obtain ⟨cx, cy⟩ := c
  obtain ⟨dx, dy⟩ := d
  rw [offset, mul_self_add_mul_self_eq_zero, hcoordinate, hcoordinate, Cell.mk.injEq]

end Position

/-! ### Orientations -/

theorem Cell.along_ofDirection (c : Cell) (d : Direction) :
    c.along (.ofDirection d) = .ok (c.neighbour d) := by
  simp only [Cell.along, Orientation.ofDirection, Number.ofInt, Number.truncate,
    Position.truncateRat_intCast, mapError_ok, ok_bind]
  rfl

theorem Orientation.isSame_ofDirection (d e : Direction) :
    (ofDirection d).isSame (ofDirection e) = decide (d = e) := by
  cases d <;> cases e <;> decide +kernel

theorem Orientation.ofDirection_inj {d e : Direction} : ofDirection d = ofDirection e ↔ d = e := by
  constructor
  · intro h
    have hsame := isSame_ofDirection d e
    rw [h, isSame_ofDirection, decide_eq_true rfl] at hsame
    exact of_decide_eq_true hsame.symm
  · rintro rfl
    rfl

/-! ### Cells that are not too far out -/

/-- The coordinates of a cell are at most `2 ^ b`. -/
def Cell.Within (b : Nat) (c : Cell) : Prop := |c.x| ≤ 2 ^ b ∧ |c.y| ≤ 2 ^ b

/-- The coordinates of a position are at most `2 ^ b`. -/
def Position.Within (b : Nat) (p : Position) : Prop := p.x.Within b ∧ p.y.Within b

theorem Position.Within.mono {p : Position} {b c : Nat} (h : p.Within b) (hbc : b ≤ c) :
    p.Within c :=
  ⟨h.1.mono hbc, h.2.mono hbc⟩

theorem Cell.Within.neighbour {c : Cell} {b : Nat} (h : c.Within b) (d : Direction) :
    (c.neighbour d).Within (b + 1) := by
  have hone : (1 : Int) ≤ 2 ^ b := one_le_pow₀ one_le_two
  have hstep : |d.step.1| ≤ 1 ∧ |d.step.2| ≤ 1 := by cases d <;> decide
  have hadd : ∀ m n : Int, |m| ≤ 2 ^ b → |n| ≤ 1 → |m + n| ≤ 2 ^ (b + 1) := by
    intro m n hm hn
    calc |m + n| ≤ |m| + |n| := abs_add_le m n
      _ ≤ 2 ^ b + 2 ^ b := by omega
      _ = 2 ^ (b + 1) := by ring
  exact ⟨hadd _ _ h.1 hstep.1, hadd _ _ h.2 hstep.2⟩

namespace Position

variable {p : Precision} {block : Int} {b : Nat}

theorem ofCell_ok (hblock : |block| ≤ 2 ^ 4) {c : Cell} (h : c.Within b) (hb : p.Reaches (b + 4)) :
    ∃ q, ofCell p block c = .ok q ∧ q.Within (b + 5) := by
  have hmul : ∀ n : Int, |n| ≤ 2 ^ b → |n * block| ≤ 2 ^ (b + 4) := by
    intro n hn
    rw [abs_mul, pow_add]
    exact mul_le_mul hn hblock (abs_nonneg block) (by positivity)
  obtain ⟨x, hx, hxw⟩ := Precision.ofInt_ok (hmul _ h.1) hb
  obtain ⟨y, hy, hyw⟩ := Precision.ofInt_ok (hmul _ h.2) hb
  refine ⟨⟨x, y⟩, ?_, hxw, hyw⟩
  rw [ofCell, hx, mapError_ok, ok_bind, hy]
  rfl

theorem cellCoordinate_ok (hblock : 0 < block) {a : Number} (h : a.Within b) :
    ∃ n, cellCoordinate block a = .ok n ∧ |n| ≤ 2 ^ b := by
  obtain ⟨n, hn, hle⟩ := h.truncate_ok
  refine ⟨n.fdiv block, ?_, ?_⟩
  · rw [cellCoordinate, hn, mapError_ok, ok_bind, if_neg hblock.ne']
    rfl
  · rw [Int.fdiv_eq_ediv_of_nonneg n hblock.le]
    rw [Int.abs_eq_natAbs] at hle ⊢
    exact le_trans (by exact_mod_cast Int.natAbs_ediv_le_natAbs n block) hle

theorem toCell_ok (hblock : 0 < block) {q : Position} (h : q.Within b) :
    ∃ c, toCell block q = .ok c ∧ c.Within b := by
  obtain ⟨x, hx, hxle⟩ := cellCoordinate_ok hblock h.1
  obtain ⟨y, hy, hyle⟩ := cellCoordinate_ok hblock h.2
  refine ⟨⟨x, y⟩, ?_, hxle, hyle⟩
  rw [toCell, hx, ok_bind, hy]
  rfl

theorem squaredOffset_ok {a c : Number} (ha : a.Within b) (hc : c.Within b)
    (hb : p.Reaches (2 * (b + 3) + 1)) : ∃ s, squaredOffset p a c = .ok s := by
  obtain ⟨c', hc', hc'w⟩ := Precision.convert_ok hc (hb.mono (by omega))
  have hsub := Precision.sub_within (ha.mono (Nat.le_succ b)) hc'w (hb.mono (by omega))
  obtain ⟨s, hs⟩ := Precision.square_ok hsub hb
  refine ⟨s, ?_⟩
  rw [squaredOffset, hc', ok_bind, hs]
  rfl

theorem squaredDistance_ok {q r : Position} (hq : q.Within b) (hr : r.Within b)
    (hb : p.Reaches (2 * (b + 3) + 1)) : ∃ s, squaredDistance p q r = .ok s := by
  obtain ⟨x, hx⟩ := squaredOffset_ok hq.1 hr.1 hb
  obtain ⟨y, hy⟩ := squaredOffset_ok hq.2 hr.2 hb
  refine ⟨p.add x y, ?_⟩
  rw [squaredDistance, hx, ok_bind, hy]
  rfl

end Position

end PlayTrace
