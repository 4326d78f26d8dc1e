import Mathlib.Data.Rat.Floor
import Mathlib.Tactic.Linarith
import PlayTrace.Proofs.Grid.Pixel

/-!
# The squares of cells

A cell covers a square of pixels, and each position lies in the square of exactly one cell. A
position is cut towards zero before it is divided by the block size. On the right of the origin that
is rounding down, and the result is the cell whose square holds the position. On the left it is
rounding up; there a coordinate that lies within the last pixel of a block, and not on its edge, is
cut into the next block. Such a coordinate is astray, and no other is.

## Main definitions

* `Position.Covers` — which coordinates a block covers
* `Position.InSquare` — which positions lie in the square of a cell
* `Position.IsAstray` — the coordinates that are cut into the next block

## Main results

* `Position.Covers.truncateRat_ediv`, `Position.Covers.truncateRat_ediv_of_isAstray` — the block
  that a coordinate is taken to be in
* `Position.toCell_iff_inSquare_iff_not_isAstray` — which positions are taken to be in the cell
  whose square they lie in
-/

namespace PlayTrace

namespace Position

open Number (truncateRat)

variable {block m n : Int} {a x y : Rat} {c : Cell}

/-! ### Cutting towards zero -/

theorem truncateRat_of_nonneg (h : 0 ≤ a) : truncateRat a = ⌊a⌋ := by
  rw [truncateRat, Rat.floor_def', Int.tdiv_eq_ediv_of_nonneg (Rat.num_nonneg.2 h)]

theorem truncateRat_of_nonpos (h : a ≤ 0) : truncateRat a = ⌈a⌉ := by
  have hneg : truncateRat (-a) = ⌊-a⌋ := truncateRat_of_nonneg (neg_nonneg.2 h)
  rw [truncateRat, Rat.num_neg_eq_neg_num, Rat.den_neg_eq_den, Int.neg_tdiv, Int.floor_neg] at hneg
  exact neg_inj.1 hneg

/-! ### Blocks -/

/-- The `n`-th block covers the coordinate. -/
def Covers (block n : Int) (a : Rat) : Prop :=
  ((n * block : Int) : Rat) ≤ a ∧ a < ((n + 1) * block : Int)

/-- The coordinate lies strictly within the last pixel of a block that ends at the origin or on its
left. -/
def IsAstray (block : Int) (a : Rat) : Prop :=
  ∃ n ≤ 0, ((n * block - 1 : Int) : Rat) < a ∧ a < (n * block : Int)

theorem covers_iff (hblock : 1 ≤ block) : Covers block n a ↔ ⌊a / block⌋ = n := by
  have hpos : (0 : Rat) < block := by exact_mod_cast hblock
  rw [Covers, Int.floor_eq_iff, le_div_iff₀ hpos, div_lt_iff₀ hpos]
  push_cast
  rfl

/-- Each coordinate is covered by a block. -/
theorem exists_covers (hblock : 1 ≤ block) (a : Rat) : ∃ n, Covers block n a :=
  ⟨⌊a / block⌋, (covers_iff hblock).2 rfl⟩

/-- No two blocks cover the same coordinate. -/
theorem Covers.unique (hblock : 1 ≤ block) (hm : Covers block m a) (hn : Covers block n a) :
    m = n :=
  ((covers_iff hblock).1 hm).symm.trans ((covers_iff hblock).1 hn)

/-- No coordinate on the right of the origin is astray. -/
theorem not_isAstray_of_nonneg (hblock : 1 ≤ block) (h : 0 ≤ a) : ¬ IsAstray block a := by
  rintro ⟨n, hn, -, hlt⟩
  have hle : n * block ≤ 0 := Int.mul_nonpos_of_nonpos_of_nonneg hn (by omega)
  have hle' : ((n * block : Int) : Rat) ≤ 0 := by exact_mod_cast hle
  linarith

/-- A coordinate that is not astray is taken to be in the block that covers it. -/
theorem Covers.truncateRat_ediv (hblock : 1 ≤ block) (h : Covers block n a)
    (hastray : ¬ IsAstray block a) : truncateRat a / block = n := by
  obtain ⟨hle, hlt⟩ := h
  rw [Int.ediv_eq_iff_of_pos (by omega), ← add_one_mul]
  rcases le_total 0 a with ha | ha
  · rw [truncateRat_of_nonneg ha]
    exact ⟨Int.le_floor.2 hle, Int.floor_lt.2 hlt⟩
  · rw [truncateRat_of_nonpos ha]
    refine ⟨?_, ?_⟩
    · exact_mod_cast hle.trans (Int.le_ceil a)
    · by_contra hceil
      have hend : (n + 1) * block ≤ ⌈a⌉ := not_lt.1 hceil
      -- The end of the block lies between the coordinate and the origin.
      have hzero : (n + 1) * block ≤ 0 := hend.trans (Int.ceil_le.2 (by exact_mod_cast ha))
      have hn : n + 1 ≤ 0 := by
        by_contra hpos
        have := Int.mul_pos (not_le.1 hpos) (show 0 < block by omega)
        omega
      exact hastray ⟨n + 1, hn, Int.lt_ceil.1 (by omega), hlt⟩

/-- A coordinate that is astray is taken to be in the block behind the one that covers it. -/
theorem Covers.truncateRat_ediv_of_isAstray (hblock : 1 ≤ block) (h : Covers block n a)
    (hastray : IsAstray block a) : truncateRat a / block = n + 1 := by
  obtain ⟨k, hk, hlo, hhi⟩ := hastray
  have hcovers : Covers block (k - 1) a := by
    have hstart : (k - 1) * block ≤ k * block - 1 := by
      rw [Int.sub_mul]
      omega
    refine ⟨le_trans (by exact_mod_cast hstart) hlo.le, ?_⟩
    rwa [Int.sub_add_cancel]
  have hnonpos : a ≤ 0 := by
    by_contra ha
    exact not_isAstray_of_nonneg hblock (not_le.1 ha).le ⟨k, hk, hlo, hhi⟩
  have hceil : ⌈a⌉ = k * block := Int.ceil_eq_iff.2 ⟨by exact_mod_cast hlo, hhi.le⟩
  rw [truncateRat_of_nonpos hnonpos, hceil, Int.mul_ediv_cancel k (by omega),
    h.unique hblock hcovers, Int.sub_add_cancel]

/-! ### Squares -/

/-- The position lies in the square of the cell: not before the position of the cell in either
coordinate, and before the position of the cell diagonally behind it in both. -/
def InSquare (block : Int) (p : Position) (c : Cell) : Prop :=
  ∃ corner opposite, ofCell .exact block c = .ok corner ∧
    ofCell .exact block ⟨c.x + 1, c.y + 1⟩ = .ok opposite ∧
    (p.x.below corner.x = false ∧ p.x.below opposite.x = true) ∧
    p.y.below corner.y = false ∧ p.y.below opposite.y = true

theorem inSquare_iff :
    InSquare block ⟨.finite x, .finite y⟩ c ↔ Covers block c.x x ∧ Covers block c.y y := by
  have hcoordinate (n : Int) (a : Rat) :
      ((Number.finite a).below (.finite ((n * block : Int) : Rat)) = false ∧
        (Number.finite a).below (.finite (((n + 1) * block : Int) : Rat)) = true) ↔
      Covers block n a := by
    simp [Number.below, Number.toRat?, Covers]
  constructor
  · rintro ⟨corner, opposite, hcorner, hopposite, hx, hy⟩
    obtain rfl := Except.ok.inj (hcorner.symm.trans (ofCell_exact block c))
    obtain rfl := Except.ok.inj (hopposite.symm.trans (ofCell_exact block ⟨c.x + 1, c.y + 1⟩))
    exact ⟨(hcoordinate c.x x).1 hx, (hcoordinate c.y y).1 hy⟩
  · rintro ⟨hx, hy⟩
    exact ⟨_, _, rfl, rfl, (hcoordinate c.x x).2 hx, (hcoordinate c.y y).2 hy⟩

theorem toCell_finite (hblock : 1 ≤ block) (x y : Rat) :
    toCell block ⟨.finite x, .finite y⟩ = .ok ⟨truncateRat x / block, truncateRat y / block⟩ := by
  have hcoordinate (a : Rat) : cellCoordinate block (.finite a) = .ok (truncateRat a / block) := by
    rw [cellCoordinate, Number.truncate, mapError_ok, ok_bind, if_neg (by omega),
      Int.fdiv_eq_ediv_of_nonneg _ (by omega)]
    rfl
  rw [toCell, hcoordinate, ok_bind, hcoordinate]
  rfl

/-- Each position lies in one square, and is taken to be in a cell whose coordinates are those of
the square, or one more where the position is astray. -/
theorem exists_square (hblock : 1 ≤ block) (x y : Rat) :
    ∃ c d : Cell, (∀ e, InSquare block ⟨.finite x, .finite y⟩ e ↔ e = c) ∧
      toCell block ⟨.finite x, .finite y⟩ = .ok d ∧
      (¬ IsAstray block x → d.x = c.x) ∧ (IsAstray block x → d.x = c.x + 1) ∧
      (¬ IsAstray block y → d.y = c.y) ∧ (IsAstray block y → d.y = c.y + 1) := by
  obtain ⟨m, hm⟩ := exists_covers hblock x
  obtain ⟨n, hn⟩ := exists_covers hblock y
  refine ⟨⟨m, n⟩, _, fun e => ?_, toCell_finite hblock x y, hm.truncateRat_ediv hblock,
    hm.truncateRat_ediv_of_isAstray hblock, hn.truncateRat_ediv hblock,
    hn.truncateRat_ediv_of_isAstray hblock⟩
  rw [inSquare_iff]
  constructor
  · rintro ⟨hx, hy⟩
    exact congrArg₂ Cell.mk (hx.unique hblock hm) (hy.unique hblock hn)
  · rintro rfl
    exact ⟨hm, hn⟩

/-- The corners of two cells have a distance, which is zero if and only if the cells are one. -/
theorem exists_squaredDistance (hblock : 1 ≤ block) (c d : Cell) :
    ∃ p q s, ofCell .exact block c = .ok p ∧ ofCell .exact block d = .ok q ∧
      squaredDistance .exact p q = .ok s ∧ (s.isZero = true ↔ c = d) := by
  refine ⟨_, _, _, rfl, rfl, squaredDistance_exact block c d, ?_⟩
  rw [← offset_eq_zero_iff (show block ≠ 0 by omega) c d]
  simp [Number.isZero, Number.toRat?]

/-- **Positions and the squares they lie in.** A position is taken to be in the cell whose square it
lies in, and in no other, if and only if neither of its coordinates is astray; a coordinate that is
astray counts one cell too many. The position of a cell is never astray: it leads back to the cell,
wherever that is; and the positions of two cells tell them apart by their distance. -/
theorem toCell_iff_inSquare_iff_not_isAstray (hblock : 1 ≤ block) :
    (∀ x y : Rat, (∀ c, toCell block ⟨.finite x, .finite y⟩ = .ok c ↔
        InSquare block ⟨.finite x, .finite y⟩ c) ↔ ¬ IsAstray block x ∧ ¬ IsAstray block y) ∧
      (∀ x y : Rat, ∃ c d : Cell, (∀ e, InSquare block ⟨.finite x, .finite y⟩ e ↔ e = c) ∧
        toCell block ⟨.finite x, .finite y⟩ = .ok d ∧
        (¬ IsAstray block x → d.x = c.x) ∧ (IsAstray block x → d.x = c.x + 1) ∧
        (¬ IsAstray block y → d.y = c.y) ∧ (IsAstray block y → d.y = c.y + 1)) ∧
      (∀ c, (ofCell .exact block c >>= toCell block) = .ok c) ∧
      ∀ c d, ∃ p q s, ofCell .exact block c = .ok p ∧ ofCell .exact block d = .ok q ∧
        squaredDistance .exact p q = .ok s ∧ (s.isZero = true ↔ c = d) := by
  refine ⟨fun x y => ?_, exists_square hblock, fun c => toCell_ofCell (by omega) nofun,
    exists_squaredDistance hblock⟩
  obtain ⟨c, d, hsquare, hcell, hx, hxa, hy, hya⟩ := exists_square hblock x y
  simp only [hcell, hsquare, Except.ok.injEq]
  constructor
  · intro h
    obtain rfl : d = c := (h d).1 rfl
    refine ⟨fun hastray => ?_, fun hastray => ?_⟩
    · have := hxa hastray
      omega
    · have := hya hastray
      omega
  · rintro ⟨hnx, hny⟩ e
    have hdc : d = c := congrArg₂ Cell.mk (hx hnx) (hy hny)
    rw [hdc, eq_comm]

/-- On the left of the origin, but within no last pixel. -/
theorem toCell_left_of_origin :
    (1 : Int) ≤ 10 ∧ ¬ IsAstray 10 (-25 / 2) ∧ ¬ IsAstray 10 (499 / 10) ∧
      (∀ c, toCell 10 ⟨.finite (-25 / 2), .finite (499 / 10)⟩ = .ok c ↔
        InSquare 10 ⟨.finite (-25 / 2), .finite (499 / 10)⟩ c) ∧
      toCell 10 ⟨.finite (-25 / 2), .finite (499 / 10)⟩ = .ok ⟨-2, 4⟩ := by
  have hblock : (1 : Int) ≤ 10 := by decide
  obtain ⟨hadjoint, -⟩ := toCell_iff_inSquare_iff_not_isAstray hblock
  have hx : ¬ IsAstray 10 (-25 / 2) := by
    rintro ⟨n, -, hlo, hhi⟩
    have hlo' : n * 10 - 1 < -12 := by
      exact_mod_cast hlo.trans (show (-25 / 2 : Rat) < -12 by norm_num)
    have hhi' : -13 < n * 10 := by
      exact_mod_cast (show (-13 : Rat) < -25 / 2 by norm_num).trans hhi
    omega
  have hy : ¬ IsAstray 10 (499 / 10) := not_isAstray_of_nonneg hblock (by norm_num)
  refine ⟨hblock, hx, hy, (hadjoint _ _).2 ⟨hx, hy⟩, ?_⟩
  rw [(hadjoint _ _).2 ⟨hx, hy⟩, inSquare_iff, Covers, Covers]
  norm_num

/-- **A position half a pixel in front of the origin** is taken to be in the cell behind it. -/
theorem toCell_in_front_of_origin :
    toCell 10 ⟨.finite (-1 / 2), .finite 0⟩ = .ok ⟨0, 0⟩ ∧
      ¬ InSquare 10 ⟨.finite (-1 / 2), .finite 0⟩ ⟨0, 0⟩ ∧
      InSquare 10 ⟨.finite (-1 / 2), .finite 0⟩ ⟨-1, 0⟩ := by
  refine ⟨by decide +kernel, ?_, ?_⟩
  · rw [inSquare_iff, Covers, Covers]
    norm_num
  · rw [inSquare_iff, Covers, Covers]
    norm_num

end Position

end PlayTrace
