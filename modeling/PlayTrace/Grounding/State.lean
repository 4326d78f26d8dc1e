import PlayTrace.Grounding.Connectivity
import PlayTrace.Grounding.Mode

/-!
# States

A snapshot becomes a list of facts. First come the facts about the sprites: cell by cell, in each
cell the distinct keys in the order of their first appearance, for each key its templates in the
order of the domain. Then follow the resources collected so far, and in the notation with cells the
connectivity.

Where the avatar looks is said right before the first fact about a sprite whose template mentions
the avatar, and only there.
-/

namespace PlayTrace

/-- A template of a sprite with the cell it applies to. -/
structure Site where
  cell : Cell
  template : Template
deriving DecidableEq

namespace Domain

/-- The sites of a cell: the templates of its distinct keys. -/
def sitesOf (D : Domain) (c : Cell) (keys : List String) : List Site :=
  keys.eraseDups.flatMap fun k => (D.templatesOf k).map fun t => ⟨c, t⟩

/-- The sites of a snapshot, row by row. -/
def sites (D : Domain) (s : Snapshot) : List Site :=
  s.rowMajor.flatMap fun e => D.sitesOf e.1 e.2

/-- The fact at a site. -/
def siteFact (D : Domain) (mode : Mode) (site : Site) : Except Fault Fact :=
  D.elementFact mode site.template site.cell

/-- What is said about where the avatar looks: one fact, or nothing if the domain has no templates
for it or the orientation faces no direction. -/
def orientationFacts (D : Domain) (o : Orientation) : Except Fault (List Fact) :=
  match D.orientations, o.facing? with
  | some table, some d =>
    match table.get? d with
    | none => .error (.directionWithoutTemplate d)
    | some t => do return [.plain (← t.instantiate D.avatarBinding)]
  | _, _ => .ok []

/-- What is told while a snapshot is gone through. -/
structure Telling where
  /-- the facts so far, the latest first -/
  told : List Fact
  /-- whether it is still to be said where the avatar looks -/
  pending : Bool

/-- Says where the avatar looks, if that is still to be said and the template mentions the avatar. -/
def tellFacing (D : Domain) (o : Orientation) (t : Template) (T : Telling) : Except Fault Telling :=
  if T.pending && t.uses D.avatar then do
    return ⟨(← D.orientationFacts o).reverse ++ T.told, false⟩
  else .ok T

/-- Tells the fact that a template becomes at a cell. -/
def tellTemplate (D : Domain) (mode : Mode) (o : Orientation) (c : Cell) (T : Telling)
    (t : Template) : Except Fault Telling := do
  let T ← D.tellFacing o t T
  return { T with told := (← D.siteFact mode ⟨c, t⟩) :: T.told }

/-- Tells the facts about a key in a cell, template by template. -/
def tellKey (D : Domain) (mode : Mode) (o : Orientation) (c : Cell) (T : Telling) (key : String) :
    Except Fault Telling :=
  (D.templatesOf key).foldlM (D.tellTemplate mode o c) T

/-- Tells the facts about the distinct keys in a cell. -/
def tellCell (D : Domain) (mode : Mode) (o : Orientation) (T : Telling)
    (e : Cell × List String) : Except Fault Telling :=
  e.2.eraseDups.foldlM (D.tellKey mode o e.1) T

/-- The facts about the sprites of a snapshot, cell by cell. -/
def spritesTold (D : Domain) (mode : Mode) (o : Orientation) (s : Snapshot) :
    Except Fault (List Fact) := do
  let T ← s.rowMajor.foldlM (D.tellCell mode o) ⟨[], true⟩
  return T.told.reverse

/-- The facts about collected resources. -/
def pickupFacts (D : Domain) (picked : String → Int) : Except Fault (List Fact) :=
  (D.pickups.entries.filter fun e => 0 < picked e.1).mapM fun e => do
    return .plain (← e.2.instantiate D.avatarBinding)

/-- The facts about connectivity that a state contains. -/
def connectivityFacts (mode : Mode) (g : Connectivity) : List Fact :=
  match mode with
  | .cell => g.atoms.map .plain
  | .numeric => []

/-- The facts of a state. -/
def groundState (D : Domain) (mode : Mode) (g : Connectivity) (s : Snapshot) (o : Orientation)
    (picked : String → Int) : Except Fault (List Fact) := do
  let about ← D.spritesTold mode o s
  let pickups ← D.pickupFacts picked
  return about ++ pickups ++ connectivityFacts mode g

end Domain

end PlayTrace
