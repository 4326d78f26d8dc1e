import PlayTrace.Fault
import PlayTrace.Number.Binary64

/-!
# Pixels

A game may report where things are in pixels instead of cells. A cell is a square block of pixels,
`block` wide and high, and its position is that of its top left corner.

A pixel position is first cut towards zero and then divided by the block size, rounding down. The
arithmetic has the precision that is passed in; see `PlayTrace.Precision`.
-/

namespace PlayTrace

/-- A pixel position. -/
structure Position where
  x : Number
  y : Number
deriving DecidableEq

namespace Position

/-- One coordinate of the cell that a pixel coordinate belongs to. -/
def cellCoordinate (block : Int) (a : Number) : Except Fault Int := do
  let n ← a.truncate.mapError Fault.number
  if block = 0 then throw .zeroBlock else return n.fdiv block

/-- The cell that a pixel position belongs to. -/
def toCell (block : Int) (p : Position) : Except Fault Cell := do
  return ⟨← cellCoordinate block p.x, ← cellCoordinate block p.y⟩

/-- The position of a cell. -/
def ofCell (precision : Precision) (block : Int) (c : Cell) : Except Fault Position := do
  return ⟨← (precision.ofInt (c.x * block)).mapError Fault.number,
    ← (precision.ofInt (c.y * block)).mapError Fault.number⟩

/-- The square of the distance between two coordinates, of which the second may have any precision. -/
def squaredOffset (precision : Precision) (a b : Number) : Except Fault Number :=
  (do precision.square (precision.sub a (← precision.convert b))).mapError Fault.number

/-- The square of the distance of a position from a point of reference. -/
def squaredDistance (precision : Precision) (p q : Position) : Except Fault Number := do
  return precision.add (← squaredOffset precision p.x q.x) (← squaredOffset precision p.y q.y)

end Position

/-- The cell that lies along an orientation, whose components are cut towards zero. -/
def Cell.along (c : Cell) (o : Orientation) : Except Fault Cell := do
  let dx ← o.x.truncate.mapError Fault.number
  let dy ← o.y.truncate.mapError Fault.number
  return c.displace dx dy

end PlayTrace
