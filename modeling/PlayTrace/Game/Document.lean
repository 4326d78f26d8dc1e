import PlayTrace.Document.Value
import PlayTrace.Game.Basic
import PlayTrace.Text.Blank
import PlayTrace.Text.Case
import PlayTrace.Text.Lines

/-!
# Game documents

Reading a game from a document. A level may be written as a block of text, of which blank lines are
dropped, or as a list of rows, which are taken as they are. Everything but the level and the legend
may be left out.
-/

namespace PlayTrace

namespace GameTables

/-- Reads a text, for which any value may stand if its text can be written. -/
def readText (v : Value) : Except GameFault String :=
  if v.isWritable then .ok v.plain else .error .longInteger

/-- Reads a level. -/
def readLevel : Value → Except GameFault (List String)
  | .text s => .ok ((Text.lines s).filter fun row => !Text.isBlankText row)
  | .list items => items.mapM readText
  | _ => .error .badLevel

/-- The members of a collection as texts: the items of a list, the keys of a mapping, the characters
of a text. A value that is not present is the empty collection. -/
def readKeys (v : Value) : Except GameFault (List String) :=
  if !v.isPresent then .ok []
  else
    match v with
    | .text s => .ok (s.toList.map String.singleton)
    | .list items => items.mapM readText
    | .mapping entries => entries.mapM fun e => readText e.1
    | _ => .error .notCollection

/-- Reads the keys of the sprites that one character stands for; a text is a single key. -/
def readSprites : Value → Except GameFault (List String)
  | .text s => .ok [s]
  | v => readKeys v

/-- Reads a key of the legend, which is a text of one character. The fault shows any other key,
and so asks for its text. -/
def readCharacter (v : Value) : Except GameFault Char :=
  match v with
  | .text s =>
    match s.toList with
    | [c] => .ok c
    | _ => .error (.badLegendKey v.shown)
  | _ => .error (if v.isWritable then .badLegendKey v.shown else .longInteger)

/-- Reads a legend. -/
def readLegend : Value → Except GameFault (Table Char (List String))
  | .mapping entries => do
    let read ← entries.mapM fun e => do return (← readCharacter e.1, ← readSprites e.2)
    return .ofList read
  | _ => .error .badLegend

/-- Reads the orientation, in small letters or capitals. -/
def readOrientation (v : Value) : Except GameFault Direction :=
  match Direction.ofName? (Text.upper v.plain) with
  | some d => .ok d
  | none => .error .badOrientation

/-- Reads an integer; a floating-point number is cut towards zero. -/
def readInt : Value → Except GameFault Int
  | .bool b => .ok (if b then 1 else 0)
  | .int n => .ok n
  | .float x => x.truncate.mapError .badNumber
  | .text s => (Text.readInteger s).mapError .badInteger
  | _ => .error .notInteger

/-- Reads the tables of a game document. -/
def ofValue : Value → Except GameFault GameTables
  | .mapping document => do
    let part (key : String) (missing : Value) : Value :=
      (Value.lookup? document key).getD missing
    let level ← readLevel (part "level" .null)
    let legend ← readLegend (part "legend" .null)
    let orientation ← readOrientation (part "orientation" (.text "RIGHT"))
    let resources ← readKeys (part "resources" .null)
    let solids ← readKeys (part "solids" (.list [.text "wall"]))
    let goals ← readKeys (part "goals" .null)
    let avatarKey ← readText (part "avatar" (.text "avatar"))
    let rotateInPlace := (part "rotate_in_place" (.bool false)).isPresent
    let maxSteps ← readInt (part "max_steps" (.int defaultMaxSteps))
    return {
      level, legend, avatarKey, orientation, rotateInPlace, maxSteps
      resources := resources.eraseDups
      solids := solids.eraseDups
      goals := goals.eraseDups }
  | _ => .error .notMapping

end GameTables

/-- Reads a game document. -/
def Game.ofValue (v : Value) : Except GameFault Game := do
  ofTables (← GameTables.ofValue v)

end PlayTrace
