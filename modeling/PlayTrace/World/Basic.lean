import PlayTrace.Game.Basic
import PlayTrace.Grid.Pixel
import PlayTrace.Grid.Snapshot

/-!
# Worlds

A world is a game at some moment: where the sprites are, where the avatar looks, what it has
collected, and whether the game is over. Sprites are told apart by number and kept in the order in
which they were put into the world.

A world can be looked at in two ways. Its observation lists the keys in every cell. Its pixel
positions are what a game engine would report, in an arithmetic of the precision of the world.
-/

namespace PlayTrace

/-- A thing in a world: what it is and where. -/
structure Sprite where
  key : String
  cell : Cell
deriving DecidableEq

/-- An orientation brought to a precision. -/
def Orientation.convert (o : Orientation) (p : Precision) : Except Fault Orientation := do
  return ⟨← (p.convert o.x).mapError Fault.number, ← (p.convert o.y).mapError Fault.number⟩

/-- The size of a cell in pixels, unless a world says otherwise. -/
def defaultBlockSize : Int := 10

/-- A game at some moment. -/
structure World where
  width : Int
  height : Int
  /-- the sprites by number -/
  sprites : Table Int Sprite
  /-- the number of the avatar -/
  avatarId : Int
  /-- where the avatar looks -/
  orientation : Orientation
  /-- the keys of the sprites that the avatar collects -/
  resources : List String
  /-- the keys of the sprites that the avatar cannot enter -/
  solids : List String
  /-- the keys of the sprites whose cell wins the game -/
  goals : List String
  /-- whether the avatar turns before it goes in a new direction -/
  rotateInPlace : Bool
  /-- the number of steps after which the game ends -/
  maxSteps : Int
  /-- the size of a cell in pixels -/
  blockSize : Int
  /-- the precision of pixel positions -/
  precision : Precision
  /-- the number of steps made -/
  tick : Nat
  /-- whether a goal was reached -/
  won : Bool
  /-- whether the game has ended -/
  ended : Bool
  /-- what the avatar has collected, by key -/
  inventory : Table String Nat
deriving DecidableEq

namespace World

/-! ### Building a world -/

/-- The sprites that stand in a row of a level, from column `x` on. -/
def rowSprites (g : GameTables) (y : Nat) : Nat → List Char → List Sprite
  | _, [] => []
  | x, c :: cs => (g.keysOf c).map (fun k => ⟨k, ⟨x, y⟩⟩) ++ rowSprites g y (x + 1) cs

/-- The sprites that stand in the rows of a level, from row `y` on. -/
def levelSprites (g : GameTables) : Nat → List String → List Sprite
  | _, [] => []
  | y, row :: rows => rowSprites g y 0 row.toList ++ levelSprites g (y + 1) rows

/-- Sprites numbered in order, from `n` on. -/
def number : Nat → List Sprite → List (Int × Sprite)
  | _, [] => []
  | n, s :: ss => ((n : Int), s) :: number (n + 1) ss

/-- The sprites of a game with their numbers. -/
def numberedSprites (g : GameTables) : List (Int × Sprite) := number 0 (levelSprites g 0 g.level)

/-- The world that a game begins with. -/
def ofGame (g : Game) (precision : Precision) : World where
  width := g.width
  height := g.level.length
  sprites := .ofList (numberedSprites g.toGameTables)
  avatarId :=
    (((numberedSprites g.toGameTables).findRev? fun e => e.2.key = g.avatarKey).map
      Prod.fst).getD (-1)
  orientation := .ofDirection g.orientation
  resources := g.resources
  solids := g.solids
  goals := g.goals
  rotateInPlace := g.rotateInPlace
  maxSteps := g.maxSteps
  blockSize := defaultBlockSize
  precision
  tick := 0
  won := false
  ended := false
  inventory := .empty

/-- A world in which the avatar is present and its orientation has the precision of the world. -/
def checked (w : World) : Except Fault World := do
  if !w.sprites.contains w.avatarId then
    throw (if Text.isWritable w.avatarId then .noAvatar w.avatarId else .longInteger)
  return { w with orientation := ← w.orientation.convert w.precision }

/-- A copy of a world. A world is made anew from the parts that a world is made of, checked as
ever, and then brought to the state that the original has come to. -/
def copy (w : World) : Except Fault World := do
  let made ← checked {
    width := w.width
    height := w.height
    sprites := w.sprites.map fun _ s => ⟨s.key, s.cell⟩
    avatarId := w.avatarId
    orientation := w.orientation
    resources := w.resources
    solids := w.solids
    goals := w.goals
    rotateInPlace := w.rotateInPlace
    maxSteps := w.maxSteps
    blockSize := w.blockSize
    precision := w.precision
    tick := 0
    won := false
    ended := false
    inventory := .empty }
  return {
    made with
    tick := w.tick
    won := w.won
    ended := w.ended
    inventory := w.inventory }

/-! ### Looking at a world -/

/-- The avatar. -/
def avatar? (w : World) : Option Sprite := w.sprites.get? w.avatarId

/-- The sprites in the order of their numbers. -/
def ordered (w : World) : List (Int × Sprite) := w.sprites.entries.mergeSort fun a b => a.1 ≤ b.1

/-- The sprites in a cell, with their numbers. -/
def spritesAt (w : World) (c : Cell) : List (Int × Sprite) :=
  w.sprites.entries.filter fun e => e.2.cell = c

/-- Whether a cell lies inside the world. -/
def inBounds (w : World) (c : Cell) : Bool :=
  0 ≤ c.x && c.x < w.width && 0 ≤ c.y && c.y < w.height

/-- The column and row of the observation in which a sprite appears, with its key. A negative
coordinate counts from the end. -/
def placed (w : World) (s : Sprite) : Except Fault (Nat × Nat × String) :=
  match Snapshot.position? w.width.toNat s.cell.x, Snapshot.position? w.height.toNat s.cell.y with
  | some x, some y => .ok (x, y, s.key)
  | _, _ => .error .outside

/-- What the world shows: the keys in every cell, in the order of the numbers of the sprites. -/
def observation (w : World) : Except Fault Observation := do
  let placed ← w.ordered.mapM fun e => w.placed e.2
  return (List.range w.width.toNat).map fun x =>
    let column := placed.filter fun p => p.1 = x
    (List.range w.height.toNat).map fun y =>
      (column.filter fun p => p.2.1 = y).map fun p => p.2.2

/-- The snapshot of what the world shows. -/
def snapshot (w : World) : Except Fault Snapshot := do
  Snapshot.ofObservation (← w.observation)

/-- The pixel position of a cell of the world. -/
def positionOf (w : World) (c : Cell) : Except Fault Position :=
  Position.ofCell w.precision w.blockSize c

/-- The pixel position of the avatar. -/
def avatarPosition (w : World) : Except Fault Position :=
  match w.avatar? with
  | some s => w.positionOf s.cell
  | none => .error (.noAvatar w.avatarId)

/-- The cell of the avatar, by its pixel position. -/
def avatarCell (w : World) : Except Fault Cell := do
  Position.toCell w.blockSize (← w.avatarPosition)

/-- A resource with its distance from a point of reference. -/
structure Resource where
  key : String
  position : Position
  squaredDistance : Number
deriving DecidableEq

/-- The resources of a world by their distance from a point of reference, which is the avatar unless
another is given. Resources at the same distance stand in the order of their numbers. -/
def resourcesFrom (w : World) (reference : Option Position) : Except Fault (List Resource) := do
  let origin ← match reference with
    | some p => pure p
    | none => w.avatarPosition
  let found ← (w.ordered.filter fun e => w.resources.contains e.2.key).mapM fun e => do
    let p ← w.positionOf e.2.cell
    return (⟨e.2.key, p, ← p.squaredDistance w.precision origin⟩ : Resource)
  return found.mergeSort fun a b => !b.squaredDistance.below a.squaredDistance

/-! ### Making a step -/

/-- Takes sprites out of a world and into the inventory. -/
def collect (w : World) (found : List (Int × Sprite)) : World :=
  found.foldl (fun w e =>
    { w with
      sprites := w.sprites.erase e.1
      inventory := w.inventory.insert e.2.key ((w.inventory.get? e.2.key).getD 0 + 1) }) w

/-- Puts the avatar into a cell, if that lies inside the world and holds nothing solid. There the
avatar collects the resources, and a goal wins the game. -/
def enter (w : World) (target : Cell) : World :=
  let occupants := w.spritesAt target
  if !w.inBounds target || occupants.any fun e => w.solids.contains e.2.key then w
  else
    match w.avatar? with
    | none => w
    | some avatar =>
      let moved := { w with sprites := w.sprites.insert w.avatarId { avatar with cell := target } }
      let collected := moved.collect (occupants.filter fun e => w.resources.contains e.2.key)
      if occupants.any fun e => w.goals.contains e.2.key then
        { collected with won := true, ended := true }
      else collected

/-- What an action does to a world, apart from taking time. -/
def perform (w : World) : Action → World
  | .use => w
  | .move d =>
    if w.rotateInPlace && !(Orientation.ofDirection d).isSame w.orientation then
      { w with orientation := .ofDirection d }
    else
      match w.avatar? with
      | some avatar => w.enter (avatar.cell.neighbour d)
      | none => w

/-- Ends the game if it has taken its number of steps. -/
def expire (w : World) : World := if w.maxSteps ≤ w.tick then { w with ended := true } else w

/-- The world one step later. A game that is over stays as it is. -/
def advance (w : World) (a : Action) : World :=
  if w.ended then w else ({ w with tick := w.tick + 1 }.perform a).expire

/-- A copy of a world, one step later. -/
def advancedCopy (w : World) (a : Action) : Except Fault World := do
  return (← w.copy).advance a

/-- The greatest number of steps that the game can still take. -/
def remaining (w : World) : Nat := if w.ended then 0 else max 1 (w.maxSteps - w.tick).toNat

end World

end PlayTrace
