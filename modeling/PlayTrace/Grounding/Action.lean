import PlayTrace.Grid.Pixel
import PlayTrace.Grounding.Mode

/-!
# Actions in a trace

An action that changed where the avatar looks is a turn and names the avatar alone. Otherwise it is
written with the cell the avatar acts from and the cell it acts on: for a move the neighbour in its
direction, for a use the cell along the orientation. A move that collected a resource says so in its
name and names the resource last.

A resource whose templates have no variable of their own cannot be named. The move is then written
without it, and the answer carries a warning.

The cells of a world are cells of its grid and have names. An action may also be asked for from a
cell that lies anywhere, and then it fails if it has to name a cell whose numbers are too long. What
the two have in common is `Domain.tellAction`, which is told how objects at cells come by their
names.
-/

namespace PlayTrace

/-- What is remarkable about a grounded action without being wrong. -/
inductive Warning where
  /-- a collected resource has no variable that could name it -/
  | unnamedResource (key : String)
deriving DecidableEq

/-- The wording of a warning. -/
def Warning.message : Warning → String
  | unnamedResource key => s!"Resource {key} has no object variable; pickup not grounded"

/-- An action of a trace, with the warning that came up. -/
structure GroundedAction where
  atom : Atom
  warning? : Option Warning
deriving DecidableEq

/-- What the name of a move ends in that collected a resource. -/
def pickupSuffix : String := "_PICK_RESOURCE"

/-- The cell that an action is aimed at. -/
def Action.target (a : Action) (source : Cell) (before : Orientation) : Except Fault Cell :=
  match a with
  | .use => source.along before
  | .move d => .ok (source.neighbour d)

/-- How the object that stands for a variable at a cell comes by its name, if it has one. -/
abbrev Naming := String → Cell → Except Fault Object

namespace Domain

/-- The objects of the two cells that an action names, where cells are objects. -/
def cellArguments (D : Domain) (name : Naming) (mode : Mode) (source target : Cell) :
    Except Fault (List Argument) :=
  match mode with
  | .cell => do return [.object (← name D.cell source), .object (← name D.cell target)]
  | .numeric => .ok []

/-- A move with the resource that it collected. -/
def withPickup (D : Domain) (name : Naming) (a : Atom) (picked : Option String) (target : Cell) :
    Except Fault GroundedAction :=
  match picked with
  | none => .ok ⟨a, none⟩
  | some key =>
    match D.resourceVariable? key with
    | none => .ok ⟨a, some (.unnamedResource key)⟩
    | some v => do
      let resource ← name v target
      return ⟨(a.withSuffix pickupSuffix).withArgs [.object resource], none⟩

/-- An action as a trace has it, given whether the avatar turned. -/
def tellAction (D : Domain) (name : Naming) (mode : Mode) (turned : Bool) (a : Action)
    (source : Cell) (before : Orientation) (picked : Option String) :
    Except Fault GroundedAction := do
  let avatar : Argument := .object (← D.avatarObject)
  if turned then return ⟨⟨a.turnName, [avatar]⟩, none⟩
  else
    let target ← a.target source before
    let cells ← D.cellArguments name mode source target
    match a with
    | .use => return ⟨⟨a.traceName, avatar :: cells⟩, none⟩
    | .move _ => D.withPickup name ⟨a.traceName, avatar :: cells⟩ picked target

/-- The action as a trace has it, from a cell of a grid, the orientations of the avatar before and
after, and the resource that was collected. -/
def groundAction (D : Domain) (mode : Mode) (a : Action) (source : Cell)
    (before after : Orientation) (picked : Option String) : Except Fault GroundedAction :=
  D.tellAction D.objectAt mode (!before.isSame after) a source before picked

/-- The action as a trace has it, from a cell that may lie anywhere. -/
def groundActionAnywhere (D : Domain) (mode : Mode) (a : Action) (source : Cell)
    (before after : Orientation) (picked : Option String) : Except Fault GroundedAction :=
  D.tellAction D.objectAnywhere mode (!before.isSame after) a source before picked

end Domain

end PlayTrace
