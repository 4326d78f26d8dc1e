import PlayTrace.Grid.Direction
import PlayTrace.Table
import PlayTrace.Text.Digit
import PlayTrace.Text.Quoted

/-!
# Games

A game is drawn: each character of the level stands for the sprites that the legend gives it. The
game also says which sprites are resources, which are solid and which are goals, and how long it may
last.

`GameTables` is what a game document says, `GameTables.fault?` the first thing wrong with it, and a
`Game` is tables with which nothing is wrong: the level is a rectangle without unknown characters,
and it holds the avatar exactly once.
-/

namespace PlayTrace

/-- Why a document is not a game. -/
inductive GameFault where
  /-- the document is not a mapping -/
  | notMapping
  /-- the level is neither a text nor a list of rows -/
  | badLevel
  /-- the legend is not a mapping -/
  | badLegend
  /-- a key of the legend is not one character; `shown` is the key as messages show it -/
  | badLegendKey (shown : String)
  /-- a collection is asked for, and the value is none -/
  | notCollection
  /-- the orientation is not a direction -/
  | badOrientation
  /-- an integer is asked for, and the value is no number and no text -/
  | notInteger
  /-- an integer is asked for, and the text is not one -/
  | badInteger (fault : Text.IntegerFault)
  /-- an integer is asked for, and the number has no integer part -/
  | badNumber (fault : Number.Fault)
  /-- the text of a value is asked for, and an integer in it has too many digits to be written -/
  | longInteger
  /-- the level has no rows -/
  | noRows
  /-- the first row of the level is empty -/
  | emptyRow
  /-- the rows of the level differ in width -/
  | unevenRows
  /-- characters of the level are missing from the legend -/
  | unknownCharacters (missing : List Char)
  /-- the avatar does not occur exactly once -/
  | avatarCount (key : String) (count : Nat)
  /-- the game would end before its first step -/
  | maxSteps
deriving DecidableEq

/-- The wording of a cause; the causes that are told by their kind alone have none. -/
def GameFault.message : GameFault → String
  | notMapping | notCollection | notInteger | badNumber .tooLarge => ""
  | badLevel => "level must be a string or a list of rows"
  | badLegend => "legend must be a mapping of character -> sprite keys"
  | badLegendKey shown => s!"legend key {shown} must be a single character"
  | badOrientation => s!"orientation must be one of {Direction.allNames}"
  | badInteger f => f.message
  | badNumber .noValue => "cannot convert float NaN to integer"
  | longInteger => Text.longIntegerMessage
  | noRows => "level must have at least one row"
  | emptyRow => "level rows must not be empty"
  | unevenRows => "level rows must all have the same width"
  | unknownCharacters cs => s!"level uses characters missing from legend: {String.ofList cs}"
  | avatarCount key n => s!"level must contain exactly one {Text.quoted key}, got {n}"
  | maxSteps => "max_steps must be >= 1"

/-- The number of steps after which a game ends that does not say so itself. -/
def defaultMaxSteps : Int := 500

/-- What a game document says. -/
structure GameTables where
  /-- the rows of the level, from top to bottom -/
  level : List String
  /-- the keys of the sprites that a character stands for -/
  legend : Table Char (List String)
  /-- the keys of the sprites that the avatar collects -/
  resources : List String
  /-- the keys of the sprites that the avatar cannot enter -/
  solids : List String
  /-- the keys of the sprites whose cell wins the game -/
  goals : List String
  /-- the key of the avatar -/
  avatarKey : String
  /-- where the avatar looks at first -/
  orientation : Direction
  /-- whether the avatar turns before it goes in a new direction -/
  rotateInPlace : Bool
  /-- the number of steps after which the game ends -/
  maxSteps : Int
deriving DecidableEq

namespace GameTables

/-- The characters of the level, row by row. -/
def characters (t : GameTables) : List Char := t.level.flatMap String.toList

/-- The keys of the sprites that a character stands for. -/
def keysOf (t : GameTables) (c : Char) : List String := (t.legend.get? c).getD []

/-- The characters of the level that the legend lacks, in ascending order. -/
def unknown (t : GameTables) : List Char :=
  ((t.characters.filter fun c => !t.legend.contains c).eraseDups).mergeSort (· ≤ ·)

/-- How often the level holds the avatar. -/
def avatarCount (t : GameTables) : Nat :=
  (t.characters.flatMap t.keysOf).count t.avatarKey

/-- The width of the level. -/
def width (t : GameTables) : Nat := (t.level.head?.map String.length).getD 0

/-- The first thing wrong with the level. -/
def levelFault? (t : GameTables) : Option GameFault :=
  if t.level.isEmpty then some .noRows
  else if t.width = 0 then some .emptyRow
  else if t.level.any fun row => row.length ≠ t.width then some .unevenRows
  else if !t.unknown.isEmpty then some (.unknownCharacters t.unknown)
  else if t.avatarCount ≠ 1 then some (.avatarCount t.avatarKey t.avatarCount)
  else none

/-- The first thing wrong with the tables of a game. -/
def fault? (t : GameTables) : Option GameFault :=
  t.levelFault? <|> if t.maxSteps < 1 then some .maxSteps else none

theorem fault?_eq_none_iff (t : GameTables) :
    t.fault? = none ↔ t.levelFault? = none ∧ 1 ≤ t.maxSteps := by
  simp [fault?]

end GameTables

/-- Tables of a game with which nothing is wrong. -/
structure Game extends GameTables where
  consistent : toGameTables.fault? = none
deriving DecidableEq

namespace Game

/-- The game of consistent tables. -/
def ofTables (t : GameTables) : Except GameFault Game :=
  match h : t.fault? with
  | some f => .error f
  | none => .ok ⟨t, h⟩

theorem levelFault?_eq_none (g : Game) : g.levelFault? = none :=
  ((GameTables.fault?_eq_none_iff _).1 g.consistent).1

theorem one_le_maxSteps (g : Game) : 1 ≤ g.maxSteps :=
  ((GameTables.fault?_eq_none_iff _).1 g.consistent).2

/-- The game with another, positive number of steps. -/
def capped (g : Game) (n : Int) (h : 1 ≤ n) : Game where
  toGameTables := { g.toGameTables with maxSteps := n }
  consistent := (GameTables.fault?_eq_none_iff _).2 ⟨g.levelFault?_eq_none, h⟩

/-- The game with another number of steps, if it is positive. -/
def withMaxSteps (g : Game) (n : Int) : Except GameFault Game :=
  ofTables { g.toGameTables with maxSteps := n }

end Game

end PlayTrace
