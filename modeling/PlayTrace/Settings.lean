import PlayTrace.Grounding.Mode
import PlayTrace.Trace.Recorder

/-!
# Settings of a run

How far a recorder looks ahead, how places are written, and, if the game is not to decide that
itself, how many steps it may take.
-/

namespace PlayTrace

/-- The settings of a run. -/
structure Settings where
  lookahead : Int
  mode : Mode
  maxSteps : Option Int
  lookahead_pos : 1 ≤ lookahead
  maxSteps_pos : ∀ n ∈ maxSteps, 1 ≤ n
deriving DecidableEq

namespace Settings

/-- The settings with the given values, if they are in range. -/
def make? (lookahead : Int) (mode : Mode) (maxSteps : Option Int) : Except Fault Settings :=
  if h : 1 ≤ lookahead then
    if h' : ∀ n ∈ maxSteps, 1 ≤ n then .ok ⟨lookahead, mode, maxSteps, h, h'⟩
    else .error .maxSteps
  else .error .lookahead

/-- The settings of a run that says nothing about them. -/
def standard : Settings := ⟨defaultLookahead, .cell, none, by decide, by simp⟩

/-- The recorder of a run. -/
def recorder (s : Settings) : Recorder :=
  .start s.lookahead.toNat (by have := s.lookahead_pos; omega)

end Settings

end PlayTrace
