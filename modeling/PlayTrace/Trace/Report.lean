import PlayTrace.Trace.Basic

/-!
# Reports

A trace as a text of two sections, the actions and the states. The entries of a section are numbered
from zero; an action is numbered by the states it lies between.
-/

namespace PlayTrace

namespace Trace

/-- The lines of the actions, numbered from `i` on. -/
def actionLines : Nat → List String → List String
  | _, [] => []
  | i, a :: as => s!"[{i}, {i + 1}]: {a}" :: actionLines (i + 1) as

/-- The lines of the states, numbered from `i` on; an empty line follows each. -/
def stateLines : Nat → List String → List String
  | _, [] => []
  | i, s :: ss => s!"[{i}]: {s}\n" :: stateLines (i + 1) ss

/-- The report of a trace. -/
def report (t : Trace) : String :=
  "\n".intercalate (["##Tasks##"] ++ actionLines 0 t.actionTexts ++ ["\n\n##States##"] ++
    stateLines 0 t.stateTexts) ++ "\n"

end Trace

end PlayTrace
