import PlayTrace.Domain.Basic

/-!
# Two notations for places

Under `Mode.cell` a place is an object, and facts and actions name the cells they speak of. Under
`Mode.numeric` a place is a number: facts become fluents with the coordinate as their value, and
actions name no cells. A predicate whose name contains the word `column` takes the column, every
other the row.
-/

namespace PlayTrace

/-- How places are written. -/
inductive Mode where
  | cell
  | numeric
deriving DecidableEq

namespace Mode

/-- The name of a notation. -/
def name : Mode → String
  | cell => "cell"
  | numeric => "numeric"

/-- The notation of a name. -/
def ofName (s : String) : Except Fault Mode :=
  if s = "cell" then .ok cell
  else if s = "numeric" then .ok numeric
  else .error .unknownMode

end Mode

/-- The word that marks a predicate about columns. -/
def columnWord : String := "column"

/-- Whether one list of characters occurs in another without gaps. -/
def Text.occursIn (word : List Char) : List Char → Bool
  | [] => word.isEmpty
  | c :: cs => word.isPrefixOf (c :: cs) || occursIn word cs

/-- Whether a predicate takes the column of a place rather than its row. -/
def Template.takesColumn (t : Template) : Bool :=
  Text.occursIn columnWord.toList (Text.lowerAscii t.name).toList

/-- The coordinate that a predicate takes at a cell. -/
def Template.coordinate (t : Template) (c : Cell) : Int := if t.takesColumn then c.x else c.y

namespace Domain

/-- What the variables of a template stand for at a cell: the avatar variable for the avatar, any
other for its object at the cell. -/
def cellBinding (D : Domain) (c : Cell) : Template.Binding := fun v =>
  (if v = D.avatar then D.avatarObject else D.objectAt v c).toOption.map .object

/-- What the variables of a template stand for that speaks of the avatar alone. -/
def avatarBinding (D : Domain) : Template.Binding := fun v =>
  if v = D.avatar then D.avatarObject.toOption.map .object else none

/-- The fact that a template of a sprite becomes at a cell. -/
def elementFact (D : Domain) (mode : Mode) (t : Template) (c : Cell) : Except Fault Fact := do
  let a ← t.instantiate (D.cellBinding c)
  return match mode with
    | .cell => .plain a
    | .numeric => .fluent a (t.coordinate c)

end Domain

end PlayTrace
