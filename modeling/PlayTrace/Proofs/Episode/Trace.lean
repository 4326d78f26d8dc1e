import PlayTrace.Proofs.Episode.Run
import PlayTrace.Proofs.World.Start

/-!
# What an episode tells

An episode is made by a host and an agent that take turns, and the agent looks at copies of the
world instead of the world itself. Its last state is not recorded like the others: it is found by a
probe, before the host makes the last step. For all that, an episode tells what happens in the game
and nothing else: one state for every world of the run, the last one included, each with the ledger
of its moment.

## Main definitions

* `Episode.Tells` — an episode tells a run of worlds

## Main results

* `Episode.tells_account` — the account of a course tells its worlds
* `Episode.exists_play_eq_ok` — every episode ends and tells the run of its world
-/

namespace PlayTrace

namespace Episode

variable {σ : Type}

/-- An episode of `n` turns tells a run of worlds. The world is left as it is after the last action.
There is a state for each world, labelled with its turn: the snapshot and the orientation of that
world, grounded with the ledger of that moment. There is an action for each turn. -/
structure Tells (D : Domain) (mode : Mode) (g : Connectivity) (world : Nat → World)
    (ledger : Nat → Ledger) (n : Nat) (e : Episode) : Prop where
  world_eq : e.world = world n
  ledger_eq : e.ledger = ledger n
  turns_eq : e.turns = n
  length_states : e.trace.states.length = n + 1
  states : ∀ i ≤ n, ∃ s facts, (world i).snapshot = .ok s ∧
    D.groundState mode g s (world i).orientation (fun k => (ledger i).count k) = .ok facts ∧
    e.trace.states[i]? = some ((i : Int), facts)
  length_actions : e.trace.actions.length = n
  actions : ∀ i < n, ∃ atom, e.trace.actions[i]? = some ((i : Int), atom)

theorem tells_account (D : Domain) (mode : Mode) {w : World} (hw : World.Sound w) (draw : Draw σ)
    (source : σ) (n : Nat) (atoms : Nat → Atom) :
    Tells D mode (D.connectivityOf hw.picture) (w.after (draw.actionAt source))
      (Agent.ledgerAt (.ofDomain D) hw (draw.actionAt source)) n
      (account D mode hw draw source n atoms) := by
  refine ⟨rfl, rfl, rfl, by simp [account], ?_, by simp [account], ?_⟩
  · intro i hi
    have hsound := hw.after (draw.actionAt source) i
    exact ⟨hsound.picture, _, hsound.snapshot_eq, Domain.groundState_eq _ _ _ _ _ _,
      getElem?_states_account hi⟩
  · intro i hi
    exact ⟨atoms i, getElem?_actions_account hi⟩

/-- **Every episode tells the run of its world.** The run is that of the actions drawn from the
source, up to the first world that is over, and this comes within the number of steps of the game.
The ledger is that of the turns taken so far. How far the recorder looks ahead makes no difference:
the episode is there before the settings are.

A level that machine arithmetic is used on has to have indices that a machine can hold. -/
theorem exists_play_eq_ok (D : Domain) (g : Game) (p : Precision) (mode : Mode) (draw : Draw σ)
    (source : σ) (hm : (World.ofGame g p).Measurable) :
    ∃ (c : Connectivity) (n : Nat) (ledger : Nat → Ledger) (e : Episode),
      Agent.start D mode (World.ofGame g p) = .ok ⟨D, mode, c⟩ ∧
      (1 ≤ n ∧ (n : Int) ≤ g.maxSteps) ∧
      (((World.ofGame g p).after (draw.actionAt source) n).ended = true ∧
        ∀ i < n, ((World.ofGame g p).after (draw.actionAt source) i).ended = false) ∧
      Tells D mode c ((World.ofGame g p).after (draw.actionAt source)) ledger n e ∧
      ∀ settings : Settings, settings.mode = mode →
        play D settings draw (World.ofGame g p) source = .ok e ∧
        ∀ i ≤ n, ∃ q : Play σ,
          (Play.start ⟨D, mode, c⟩ settings (World.ofGame g p) source).turns ⟨D, mode, c⟩ draw i =
            .ok q ∧
          q.world = (World.ofGame g p).after (draw.actionAt source) i ∧
          q.agent.ledger = ledger i ∧ q.agent.recorder.turn = i := by
  have hw := World.sound_ofGame g p
  obtain ⟨n, atoms, hcourse⟩ := exists_course D mode hw hm rfl draw source
  refine ⟨D.connectivityOf hw.picture, n,
    Agent.ledgerAt (.ofDomain D) hw (draw.actionAt source),
    account D mode hw draw source n atoms, Agent.start_eq D mode hw, ⟨hcourse.pos, ?_⟩,
    ⟨hcourse.ended, hcourse.goes_on⟩, tells_account D mode hw draw source n atoms, ?_⟩
  · have hle := hcourse.le_remaining
    have hmax := g.one_le_maxSteps
    rw [World.remaining_ofGame] at hle
    omega
  · intro settings hmode
    refine ⟨hcourse.play_eq hmode, ?_⟩
    intro i hi
    obtain ⟨q, hq, hstands⟩ := hcourse.turns settings i
    rw [Nat.min_eq_left hi] at hstands
    exact ⟨q, hq, hstands.world, hstands.ledger, hstands.turn_eq⟩

/-- The corridor is played for one step, with two states and one action. -/
theorem exists_play_corridor_eq_ok :
    (World.ofGame corridor .binary64).Measurable ∧
      ∃ e, play gemDomain .standard rightward (World.ofGame corridor .binary64) () = .ok e ∧
        e.turns = 1 ∧ e.trace.states.length = 2 ∧ e.trace.actions.length = 1 := by
  have hm : (World.ofGame corridor .binary64).Measurable := fun _ => by decide
  refine ⟨hm, ?_⟩
  obtain ⟨c, n, ledger, e, -, ⟨hpos, hle⟩, -, htells, hplay⟩ :=
    exists_play_eq_ok gemDomain corridor .binary64 .cell rightward () hm
  have hmax : corridor.maxSteps = 1 := rfl
  obtain rfl : n = 1 := by omega
  exact ⟨e, (hplay .standard rfl).1, htells.turns_eq, htells.length_states, htells.length_actions⟩

end Episode

end PlayTrace
