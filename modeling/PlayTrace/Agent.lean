import PlayTrace.Grounding.Action
import PlayTrace.Grounding.Ledger
import PlayTrace.Grounding.State
import PlayTrace.Trace.Recorder
import PlayTrace.World.Basic

/-!
# The agent

The agent plays a game and records every turn. It learns what an action does from a model of the
game: it asks for a successor of the world, reads off what was collected and where the avatar looks
now, and lets the recorder look for the end of the game among this successor and fresh ones. The
world itself it leaves alone; whoever hosts the game makes the step.

A model may err, and differently each time it is asked, so its answers depend on how often it was
asked before. `faithfulModel` always answers with the step that the world will make.

When a turn fails, what it had done until then stays done.
-/

namespace PlayTrace

/-- A model of a game: the successor of a world under an action, as given at the `n`-th time of
asking. -/
abbrev ForwardModel := Nat → World → Action → World

/-- The model that is always right: a copy of the world makes the step. A world whose avatar is
missing cannot be copied, and is its own successor. -/
def faithfulModel : ForwardModel := fun _ w a => (w.advancedCopy a).toOption.getD w

/-- What an agent knows for the length of a game. -/
structure Agent where
  domain : Domain
  mode : Mode
  connectivity : Connectivity
deriving DecidableEq

/-- What an agent keeps from turn to turn. -/
structure AgentState where
  ledger : Ledger
  recorder : Recorder
  /-- how often the model was asked -/
  simulations : Nat
deriving DecidableEq

/-- What came of a turn. -/
structure Turn where
  action : Atom
  warning? : Option Warning
deriving DecidableEq

namespace Agent

/-- An agent for a game that begins with the given world. -/
def start (D : Domain) (mode : Mode) (w : World) : Except Fault Agent := do
  return ⟨D, mode, ← Connectivity.build D (← w.snapshot)⟩

/-- The facts of a world, given what was collected so far. -/
def groundWorld (A : Agent) (l : Ledger) (w : World) : Except Fault (List Fact) := do
  A.domain.groundState A.mode A.connectivity (← w.snapshot) w.orientation
    fun k => l.count k

/-- The resource that a move collected: the first resource of the world that lies exactly on the
target of the move and was collected according to the ledger. -/
def pickedResource (w : World) (a : Action) (source : Cell) (deltas : Table String Nat) :
    Except Fault (Option String) :=
  match a with
  | .use => .ok none
  | .move d =>
    if deltas.values.all (· == 0) then .ok none
    else do
      let target ← w.positionOf (source.neighbour d)
      let resources ← w.resourcesFrom (some target)
      return (resources.find? fun r =>
        r.squaredDistance.isZero && 0 < (deltas.get? r.key).getD 0).map World.Resource.key

/-- What the agent sees of a world before it acts: its facts, its snapshot and the cell of the
avatar. -/
def look (A : Agent) (l : Ledger) (w : World) : Except Fault (List Fact × Snapshot × Cell) := do
  return (← A.groundWorld l w, ← w.snapshot, ← w.avatarCell)

/-- The action as the trace has it, given the world before and after and what was collected. -/
def describe (A : Agent) (w after : World) (a : Action) (source : Cell)
    (deltas : Table String Nat) : Except Fault GroundedAction := do
  let picked ← pickedResource w a source deltas
  A.domain.groundAction A.mode a source w.orientation after.orientation picked

/-- One turn: the state that the agent is left in, and what came of the turn. -/
def act (A : Agent) (model : ForwardModel) (w : World) (a : Action) (s : AgentState) :
    AgentState × Except Fault Turn :=
  let begun := { s with recorder := s.recorder.beginTurn }
  match A.look begun.ledger w with
  | .error e => (begun, .error e)
  | .ok (facts, before, source) =>
    let successor (i : Nat) : World := model (begun.simulations + i) w a
    let asked := { begun with simulations := begun.simulations + 1 }
    match (successor 0).snapshot with
    | .error e => (asked, .error e)
    | .ok after =>
      let counted := { asked with ledger := asked.ledger.update before after }
      match A.describe w (successor 0) a source (begun.ledger.deltas before after) with
      | .error e => (counted, .error e)
      | .ok grounded =>
        let recorded :=
          { counted with recorder := counted.recorder.record facts grounded.atom }
        match recorded.recorder.probe successor World.ended (A.groundWorld counted.ledger) with
        | .error e => (recorded, .error e)
        | .ok probe =>
          ({ recorded with
              recorder := probe.recorder
              simulations := recorded.simulations + probe.resimulated },
            .ok ⟨grounded.atom, grounded.warning?⟩)

end Agent

end PlayTrace
