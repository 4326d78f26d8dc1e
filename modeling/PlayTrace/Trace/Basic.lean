import PlayTrace.Atom

/-!
# Traces

A trace lists the states and the actions of a game, each with the turn it belongs to.
-/

namespace PlayTrace

/-- The states and actions of a game, each with its turn. -/
structure Trace where
  states : List (Int × List Fact)
  actions : List (Int × Atom)
deriving DecidableEq

namespace Trace

/-- The trace without states and actions. -/
def empty : Trace := ⟨[], []⟩

/-- The states as texts. -/
def stateTexts (t : Trace) : List String := t.states.map fun e => renderState e.2

/-- The actions as texts. -/
def actionTexts (t : Trace) : List String := t.actions.map fun e => e.2.render

end Trace

end PlayTrace
