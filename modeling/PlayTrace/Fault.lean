import PlayTrace.Grid.Direction

/-!
# What can go wrong while playing

The causes for which a grid, a grounding, a world or a recording is refused. A cause carries what
its message needs; the wording is in `Fault.message`.
-/

namespace PlayTrace

/-- A cause for which playing, grounding or recording stops. -/
inductive Fault where
  /-- a template has a placeholder that nothing is bound to -/
  | unbound (name source : String)
  /-- a variable has no type -/
  | untyped (name : String)
  /-- a direction has no template -/
  | directionWithoutTemplate (d : Direction)
  /-- a resource is not counted by the ledger -/
  | uncounted (key : String)
  /-- an observation has no columns, or no cells in its first column -/
  | emptyObservation
  /-- a grid would have no columns or no rows -/
  | emptyGrid
  /-- the number of columns of a grid is not its width -/
  | wrongWidth
  /-- the number of cells in a column is not the height of the grid -/
  | wrongHeight
  /-- a cell holds no sprite key, not even that of the background -/
  | emptyCell
  /-- a place lies outside what is looked at -/
  | outside
  /-- positions are to be measured in blocks of size zero -/
  | zeroBlock
  /-- a number has no counterpart of the form asked for -/
  | number (f : Number.Fault)
  /-- there is no action to choose from -/
  | noActions
  /-- the avatar is not among the sprites -/
  | noAvatar (id : Int)
  /-- fewer than one look ahead is asked for -/
  | lookahead
  /-- a game is to end before its first step -/
  | maxSteps
  /-- a way of grounding is not known -/
  | unknownMode
  /-- fewer than one episode is asked for -/
  | noEpisodes
  /-- the text of an integer is asked for, and it has too many digits to be written -/
  | longInteger
deriving DecidableEq

/-- The wording of a cause; the causes that are told by their kind alone have none. -/
def Fault.message : Fault → String
  | unbound v s => s!"no binding for {v} in template {Text.quoted s}"
  | untyped v => v
  | directionWithoutTemplate d => d.name
  | uncounted k => k
  | emptyObservation => "observation grid must not be empty"
  | emptyGrid => "grid must be at least 1x1"
  | wrongWidth => "cells must have one column per x coordinate"
  | wrongHeight => "every column must have one entry per y coordinate"
  | emptyCell => "cells must not be empty; use the background key"
  | outside => ""
  | zeroBlock => ""
  | number .tooLarge => ""
  | number .noValue => "cannot convert float NaN to integer"
  | noActions => "no actions available"
  | noAvatar id => s!"avatar sprite {id} not in sprites"
  | lookahead => "lookahead_simulations must be >= 1"
  | maxSteps => "max_steps must be >= 1"
  | unknownMode => "grounding-mode must be one of cell, numeric"
  | noEpisodes => "n_episodes must be >= 1"
  | longInteger => Text.longIntegerMessage

end PlayTrace
