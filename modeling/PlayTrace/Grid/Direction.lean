import PlayTrace.Number.Basic
import PlayTrace.Text.Digit

/-!
# Cells, directions and actions

A cell of a grid is named by its column `x`, growing to the right, and its row `y`, growing
downwards. An orientation is the vector that the avatar looks along; it need not be a unit vector,
and then it may face no direction at all.
-/

namespace PlayTrace

/-- The place of a cell: column and row. -/
structure Cell where
  x : Int
  y : Int
deriving DecidableEq

namespace Cell

/-- The cell displaced by `dx` columns and `dy` rows. -/
def displace (c : Cell) (dx dy : Int) : Cell := ⟨c.x + dx, c.y + dy⟩

/-- Whether the column and the row of a cell can be written. The cells of a grid are places in lists,
so theirs always can; a cell from elsewhere may be any pair of integers. -/
def isWritable (c : Cell) : Bool := Text.isWritable c.x && Text.isWritable c.y

end Cell

/-- The four directions, in the order in which the neighbours of a cell are visited. -/
inductive Direction where
  | up
  | down
  | left
  | right
deriving DecidableEq

namespace Direction

/-- The four directions in order. -/
def all : List Direction := [up, down, left, right]

/-- The name of a direction, as domains and games write it. -/
def name : Direction → String
  | up => "UP"
  | down => "DOWN"
  | left => "LEFT"
  | right => "RIGHT"

/-- The direction of a name. -/
def ofName? (s : String) : Option Direction := all.find? fun d => d.name == s

/-- The step in a direction: columns and rows. -/
def step : Direction → Int × Int
  | up => (0, -1)
  | down => (0, 1)
  | left => (-1, 0)
  | right => (1, 0)

/-- The names of the four directions, for messages. -/
def allNames : String := ", ".intercalate (all.map name)

theorem mem_all (d : Direction) : d ∈ all := by cases d <;> decide

end Direction

/-- The neighbour of a cell in a direction, inside a grid or not. -/
def Cell.neighbour (c : Cell) (d : Direction) : Cell := c.displace d.step.1 d.step.2

/-- The vector that the avatar looks along. -/
structure Orientation where
  x : Number
  y : Number
deriving DecidableEq

namespace Orientation

/-- The orientation of an avatar that looks in a direction. -/
def ofDirection (d : Direction) : Orientation := ⟨.ofInt d.step.1, .ofInt d.step.2⟩

/-- The direction that an orientation faces. The column component decides first, so a diagonal
vector faces left or right; a vector without a unit component faces none. -/
def facing? (o : Orientation) : Option Direction :=
  if o.x.sameValue (.ofInt 1) then some .right
  else if o.x.sameValue (.ofInt (-1)) then some .left
  else if o.y.sameValue (.ofInt 1) then some .down
  else if o.y.sameValue (.ofInt (-1)) then some .up
  else none

/-- Whether two orientations have the same components. The undefined number is compared as a value
here, so it is the same wherever it comes from; a world hands on one and the same number until the
avatar turns. -/
def isSame (o p : Orientation) : Bool := o.x.isSame p.x && o.y.isSame p.y

end Orientation

/-- What the avatar can be told to do: go in a direction, or use what lies ahead. -/
inductive Action where
  | move (d : Direction)
  | use
deriving DecidableEq

namespace Action

/-- All actions, in the order in which they are offered. -/
def all : List Action := [.move .up, .move .down, .move .left, .move .right, .use]

/-- The direction of an action, if it has one. -/
def direction? : Action → Option Direction
  | move d => some d
  | use => none

/-- The short name of an action. -/
def shortName : Action → String
  | move d => d.name
  | use => "USE"

/-- The name by which a game offers the action. -/
def gameName (a : Action) : String := "ACTION_" ++ a.shortName

/-- The name of the action in a trace, when it does not turn the avatar. -/
def traceName : Action → String
  | move d => "MOVE_" ++ d.name
  | use => "USE"

/-- The name of the action in a trace, when it turns the avatar. -/
def turnName : Action → String
  | move d => "TURN_" ++ d.name
  | use => "USE"

/-- The action of a short name. -/
def ofShortName? (s : String) : Option Action := all.find? fun a => a.shortName == s

end Action

end PlayTrace
