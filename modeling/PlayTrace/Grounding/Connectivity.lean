import PlayTrace.Domain.Basic
import PlayTrace.Grid.Snapshot

/-!
# Connectivity

Which cells of a grid are neighbours, and the atoms that say so. Every pair of a cell and a direction
whose neighbour lies inside the grid is a link; the domain turns each link into an atom. Where the
domain writes a link and its reverse alike, the atom is kept once, where it first came up.

Connectivity depends on the measures of the grid alone, so it is worked out once for a game.
-/

namespace PlayTrace

/-- A step from a cell to its neighbour. -/
structure Link where
  source : Cell
  direction : Direction
  target : Cell
deriving DecidableEq

/-- The cells of a grid, the links between them, and the atoms of the links. -/
structure Connectivity where
  cells : List Cell
  links : List Link
  atoms : List Atom
deriving DecidableEq

namespace Snapshot

/-- The links that leave a cell, in the order of the directions. -/
def linksFrom (s : Snapshot) (c : Cell) : List Link :=
  (Direction.all.map fun d => ⟨c, d, c.neighbour d⟩).filter fun l => s.inBounds l.target

/-- The links of a grid: cell by cell, row by row. -/
def links (s : Snapshot) : List Link := s.cells.flatMap s.linksFrom

end Snapshot

namespace Domain

/-- What the variables of a connection stand for: the cell variable for the cell that the link
leaves, any other for the cell it leads to. -/
def linkBinding (D : Domain) (l : Link) : Template.Binding := fun v =>
  (D.cellObject (if v = D.cell then l.source else l.target)).toOption.map .object

/-- The atom of a link. -/
def linkAtom (D : Domain) (l : Link) : Except Fault Atom :=
  match D.connections.get? l.direction with
  | none => .error (.directionWithoutTemplate l.direction)
  | some t => t.instantiate (D.linkBinding l)

end Domain

namespace Connectivity

/-- The connectivity of a grid. -/
def build (D : Domain) (s : Snapshot) : Except Fault Connectivity := do
  return ⟨s.cells, s.links, (← s.links.mapM D.linkAtom).eraseDups⟩

/-- The cell that a link leads to from a cell in a direction. -/
def neighbour? (g : Connectivity) (c : Cell) (d : Direction) : Option Cell :=
  (g.links.find? fun l => l.source = c && l.direction = d).map Link.target

end Connectivity

end PlayTrace
