import PlayTrace.Agent
import PlayTrace.Random.Policy
import PlayTrace.Settings

/-!
# Episodes

An episode is a game played to its end by choosing every action at random. The host of the game and
the agent take turns: the agent records what the action does, the host makes the step.

A game that is not over has a greatest number of steps that it can still take, and every step lowers
it; this bounds the number of turns.
-/

namespace PlayTrace

/-- A game in play: the world, the agent's state, and the source of randomness. -/
structure Play (σ : Type) where
  world : World
  agent : AgentState
  source : σ

/-- An episode that has come to its end. -/
structure Episode where
  /-- the world as it was at the end -/
  world : World
  /-- what was collected, by key -/
  ledger : Ledger
  /-- the number of turns -/
  turns : Nat
  trace : Trace
deriving DecidableEq

namespace Play

variable {σ : Type}

/-- A game before its first turn. -/
def start (A : Agent) (settings : Settings) (w : World) (source : σ) : Play σ where
  world := w
  agent := ⟨.ofDomain A.domain, settings.recorder, 0⟩
  source

/-- One turn of agent and host. -/
def turn (A : Agent) (draw : Draw σ) (p : Play σ) : Except Fault (Play σ) := do
  let (a, source) ← draw.choose Action.all p.source
  let (agent, result) := A.act faithfulModel p.world a p.agent
  let _ ← result
  return { world := p.world.advance a, agent, source }

/-- Up to `n` turns, as long as the game is not over. -/
def turns (A : Agent) (draw : Draw σ) : Nat → Play σ → Except Fault (Play σ)
  | 0, p => .ok p
  | n + 1, p => if p.world.ended then .ok p else do turns A draw n (← p.turn A draw)

end Play

namespace Episode

variable {σ : Type}

/-- Plays a world to its end. -/
def play (D : Domain) (settings : Settings) (draw : Draw σ) (w : World) (source : σ) :
    Except Fault Episode := do
  let A ← Agent.start D settings.mode w
  let p ← (Play.start A settings w source).turns A draw w.remaining
  return {
    world := p.world
    ledger := p.agent.ledger
    turns := p.agent.recorder.turn
    trace := p.agent.recorder.trace }

end Episode

end PlayTrace
