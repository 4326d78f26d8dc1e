import PlayTrace.Fault
import PlayTrace.Trace.Basic

/-!
# Recording a trace

The recorder collects a trace turn by turn. After a game is over nobody asks for the last state, so
the recorder looks for it ahead of time: after every action it asks a model of the game whether the
action ended it. A final state found in this way is provisional. If another turn begins, the game
went on after all, and the state is dropped.

The model may be wrong now and then, so it is asked several times: first about the successor at
hand, then about fresh ones. The candidates are numbered from zero in the order in which they are
asked for.
-/

namespace PlayTrace

/-- Whether the last state of a recorder is provisional. -/
inductive RecorderPhase where
  | recording
  | pendingTerminal
deriving DecidableEq

/-- The name of a phase. -/
def RecorderPhase.name : RecorderPhase → String
  | recording => "recording"
  | pendingTerminal => "pending_terminal"

/-- The number of candidates that are looked at for a final state, unless a run says otherwise. -/
def defaultLookahead : Int := 10

/-- A trace under construction. -/
structure Recorder where
  /-- the number of candidates that are looked at for a final state -/
  lookahead : Nat
  phase : RecorderPhase
  trace : Trace
  /-- the number of turns recorded -/
  turn : Nat
  lookahead_pos : 0 < lookahead
deriving DecidableEq

namespace Recorder

/-- A recorder that has recorded nothing. -/
def start (lookahead : Nat) (h : 0 < lookahead) : Recorder := ⟨lookahead, .recording, .empty, 0, h⟩

/-- A recorder that has recorded nothing, if it may look at one candidate at least. -/
def make? (lookahead : Int) : Except Fault Recorder :=
  if h : 1 ≤ lookahead then .ok (start lookahead.toNat (by omega)) else .error .lookahead

/-- Begins a turn: a provisional state is dropped. -/
def beginTurn (r : Recorder) : Recorder :=
  match r.phase with
  | .recording => r
  | .pendingTerminal =>
    { r with phase := .recording, trace := { r.trace with states := r.trace.states.dropLast } }

/-- Records the state and the action of a turn. -/
def record (r : Recorder) (state : List Fact) (action : Atom) : Recorder :=
  { r with
    trace := ⟨r.trace.states ++ [((r.turn : Int), state)],
      r.trace.actions ++ [((r.turn : Int), action)]⟩
    turn := r.turn + 1 }

/-- Looks at up to `left` candidates beginning with number `i`: whether one of them is final, and
the number of the last one looked at. -/
def search (isFinal : Nat → Bool) : (left : Nat) → (i : Nat) → Bool × Nat
  | 0, i => (false, i)
  | 1, i => (isFinal i, i)
  | left + 2, i => if isFinal i then (true, i) else search isFinal (left + 1) (i + 1)

/-- What came of looking for a final state. -/
structure Probe where
  recorder : Recorder
  /-- whether a final state was found -/
  found : Bool
  /-- how many fresh candidates were asked for -/
  resimulated : Nat

/-- Looks for a final state among the candidates, and records it provisionally. -/
def probe (r : Recorder) (candidate : Nat → α) (isFinal : α → Bool)
    (ground : α → Except Fault (List Fact)) : Except Fault Probe :=
  match search (fun i => isFinal (candidate i)) r.lookahead 0 with
  | (false, i) => .ok ⟨r, false, i⟩
  | (true, i) => do
    let state ← ground (candidate i)
    let trace := { r.trace with states := r.trace.states ++ [((r.turn : Int), state)] }
    return ⟨{ r with trace, phase := .pendingTerminal }, true, i⟩

end Recorder

end PlayTrace
