import Mathlib.Algebra.Order.BigOperators.Group.Finset
import PlayTrace.Proofs.Episode.Conservation

/-!
# Models that take the game for over

The recorder is made for models that end the game too early: a final state that turns out false is
dropped. But the first answer of the model is also what the agent counts by. An answer that takes
the game for over from the start shows the world as it was, so nothing seems to be collected, and
what the world then does collect is never made up for.

Here the agent plays with any model whose answers are sound worlds, and the host makes the steps. No
turn fails, and every state that is recorded is the state of the world with the counts of the
ledger. With a model that is wrong about the end now and then, the ledger lags behind the inventory
by what was collected in the turns whose first answer was wrong.

## Main definitions

* `prematureModel` — a model that takes the game for over at some of the times it is asked
* `Agent.stateAfter` — the agent in a game whose host makes the steps
* `Agent.overlooked` — what was collected behind the agent's back

## Main results

* `Agent.exists_act_eq` — a turn with any model whose answers are sound
* `Agent.count_add_overlooked` — what the ledger lacks
* `Agent.exists_start_agrees_iff` — when the ledger keeps up with the inventory
-/

namespace PlayTrace

open World

/-- The model that answers with the step of the world, but at the times marked as wrong with the
step of a world in which the game is over already. -/
def prematureModel (wrong : Nat → Bool) : ForwardModel := fun n w a =>
  if wrong n then ({ w with ended := true } : World).advance a else w.advance a

/-- What a model answers about sound worlds is sound. -/
def ForwardModel.IsSound (model : ForwardModel) : Prop := ∀ n w a, Sound w → Sound (model n w a)

namespace World

variable {w : World}

/-- Calling the game over changes nothing else. -/
theorem Sound.halted (hw : Sound w) : Sound { w with ended := true } :=
  ⟨hw.width_pos, hw.height_pos, hw.blockSize, hw.avatar, hw.inside, hw.ordered, hw.faces⟩

theorem Sound.held_le_advance (hw : Sound w) (a : Action) (key : String) :
    w.held key ≤ (w.advance a).held key := by
  obtain ⟨hsum, hle, -⟩ := hw.advance_counts a key
  omega

end World

/-- The ledger has counted just what the world holds, of every resource that a domain counts. -/
def Ledger.Agrees (l : Ledger) (D : Domain) (w : World) : Prop :=
  ∀ key ∈ D.pickups.keys, l.count key = w.held key

theorem prematureModel_of_wrong {wrong : Nat → Bool} {n : Nat} (h : wrong n = true) (w : World)
    (a : Action) : prematureModel wrong n w a = { w with ended := true } := by
  rw [prematureModel, if_pos h, advance_of_ended rfl]

theorem prematureModel_of_right {wrong : Nat → Bool} {n : Nat} (h : wrong n = false) (w : World)
    (a : Action) : prematureModel wrong n w a = w.advance a := by
  rw [prematureModel, if_neg (Bool.eq_false_iff.1 h)]

theorem isSound_prematureModel (wrong : Nat → Bool) : (prematureModel wrong).IsSound := by
  intro n w a hw
  cases h : wrong n with
  | true => exact prematureModel_of_wrong h w a ▸ hw.halted
  | false => exact prematureModel_of_right h w a ▸ hw.advance a

namespace Agent

variable {A : Agent} {model : ForwardModel} {w : World} {actions : Nat → Action} {s : AgentState}
  {n : Nat} {key : String}

/-! ### A turn with any model -/

/-- The answers of a model about a sound world, from the `n`-th time of asking on. -/
def answers (hmodel : model.IsSound) (hw : Sound w) (a : Action) (n i : Nat) :
    { v : World // Sound v } :=
  ⟨model (n + i) w a, hmodel (n + i) w a hw⟩

/-- The ledger after a turn: it compares the world with the first answer. -/
def ledgerBy (hmodel : model.IsSound) (hw : Sound w) (a : Action) (s : AgentState) : Ledger :=
  s.ledger.update hw.picture (answers hmodel hw a s.simulations 0).2.picture

/-- What the recorder gets to see of a turn. The candidates are the answers of the model. -/
def entryBy (A : Agent) (hmodel : model.IsSound) (hw : Sound w) (a : Action) (s : AgentState)
    (atom : Atom) : Recorder.Entry { v : World // Sound v } where
  state := A.factsOf s.ledger hw
  action := atom
  candidate := answers hmodel hw a s.simulations
  isFinal := fun v => v.1.ended
  ground := fun v => A.factsOf (ledgerBy hmodel hw a s) v.2

/-- What a turn makes of the ledger and the recorder, once the action is described. -/
theorem act_eq_of_describe (A : Agent) (hmodel : model.IsSound) (hw : Sound w) {a : Action}
    {s : AgentState} {source : Cell} (hsource : w.avatarCell = .ok source)
    {grounded : GroundedAction}
    (hdescribe : A.describe w (model s.simulations w a) a source
      (s.ledger.deltas hw.picture (answers hmodel hw a s.simulations 0).2.picture) = .ok grounded)
    {r : Recorder}
    (hr : s.recorder.takeTurn (A.entryBy hmodel hw a s grounded.atom) = .ok r) :
    ∃ asked turn, A.act model w a s = (⟨ledgerBy hmodel hw a s, r, asked⟩, .ok turn) := by
  have hprobe := Recorder.probe_eq
    (s.recorder.beginTurn.record (A.factsOf s.ledger hw) grounded.atom)
    (fun i => model (s.simulations + i) w a) World.ended (A.groundWorld (ledgerBy hmodel hw a s))
    fun i => groundWorld_eq A _ (answers hmodel hw a s.simulations i).2
  have hlook : (s.recorder.beginTurn.record (A.factsOf s.ledger hw) grounded.atom).lookahead =
      s.recorder.lookahead := Recorder.lookahead_beginTurn s.recorder
  have hafter : (model s.simulations w a).snapshot =
      .ok (answers hmodel hw a s.simulations 0).2.picture :=
    (answers hmodel hw a s.simulations 0).2.snapshot_eq
  rw [ledgerBy] at hprobe
  rw [Recorder.takeTurn_eq] at hr
  obtain rfl := Except.ok.inj hr
  simp only [act, look_eq A _ hw hsource, Nat.add_zero, hafter, hdescribe, hprobe, hlook, ledgerBy]
  have hcandidates : (fun i => (A.entryBy hmodel hw a s grounded.atom).isFinal
      ((A.entryBy hmodel hw a s grounded.atom).candidate i)) =
      fun i => (model (s.simulations + i) w a).ended := rfl
  rw [hcandidates]
  cases Recorder.firstFinal? (fun i => (model (s.simulations + i) w a).ended)
      s.recorder.lookahead <;> exact ⟨_, _, rfl⟩

/-- **A turn with any model.** The ledger is updated by the first answer, and the recorder takes in
the entry of the turn. -/
theorem exists_act_eq (A : Agent) (hmodel : model.IsSound) (hw : Sound w) (hm : Measurable w)
    (a : Action) (s : AgentState) :
    ∃ atom r asked turn, s.recorder.takeTurn (A.entryBy hmodel hw a s atom) = .ok r ∧
      A.act model w a s = (⟨ledgerBy hmodel hw a s, r, asked⟩, .ok turn) := by
  obtain ⟨source, grounded, hsource, hdescribe⟩ := A.exists_describe_eq_ok hw hm
    (model s.simulations w a) a
    (s.ledger.deltas hw.picture (answers hmodel hw a s.simulations 0).2.picture)
  have hr := Recorder.takeTurn_eq s.recorder (A.entryBy hmodel hw a s grounded.atom)
  obtain ⟨asked, turn, hact⟩ := A.act_eq_of_describe hmodel hw hsource hdescribe hr
  exact ⟨grounded.atom, _, asked, turn, hr, hact⟩

/-! ### A game whose host makes the steps -/

/-- The agent after `n` turns. The host makes the steps in the world, whatever the model answers. -/
def stateAfter (A : Agent) (model : ForwardModel) (w : World) (actions : Nat → Action)
    (s : AgentState) : Nat → AgentState
  | 0 => s
  | n + 1 => (A.act model (w.after actions n) (actions n) (A.stateAfter model w actions s n)).1

section Hosted

variable (A) (hmodel : model.IsSound) (hw : Sound w) (hm : Measurable w) (actions : Nat → Action)
  (s : AgentState) (n : Nat)

include hmodel hw hm

theorem exists_act_eq_ok :
    ∃ turn, (A.act model (w.after actions n) (actions n) (A.stateAfter model w actions s n)).2 =
      .ok turn := by
  obtain ⟨_, _, _, turn, _, hact⟩ := A.exists_act_eq hmodel (hw.after actions n)
    (hm.after hw actions n) (actions n) (A.stateAfter model w actions s n)
  exact ⟨turn, by rw [hact]⟩

theorem ledger_stateAfter_succ :
    (A.stateAfter model w actions s (n + 1)).ledger =
      ledgerBy hmodel (hw.after actions n) (actions n) (A.stateAfter model w actions s n) := by
  obtain ⟨_, _, _, _, _, hact⟩ := A.exists_act_eq hmodel (hw.after actions n)
    (hm.after hw actions n) (actions n) (A.stateAfter model w actions s n)
  rw [stateAfter, hact]

/-- **The recorder recounts the turns**, and each of them recorded the state of the world with the
counts of the ledger at that time. -/
theorem exists_recounts_stateAfter
    (hs : Recorder.Recounts ([] : List (Recorder.Entry { v : World // Sound v })) s.recorder) :
    ∃ es : List (Recorder.Entry { v : World // Sound v }),
      Recorder.Recounts es (A.stateAfter model w actions s n).recorder ∧
      es.map Recorder.Entry.state = (List.range n).map fun i =>
        A.factsOf (A.stateAfter model w actions s i).ledger (hw.after actions i) := by
  induction n with
  | zero => exact ⟨[], hs, rfl⟩
  | succ n ih =>
    obtain ⟨es, hes, hstates⟩ := ih
    obtain ⟨atom, r, asked, turn, hr, hact⟩ := A.exists_act_eq hmodel (hw.after actions n)
      (hm.after hw actions n) (actions n) (A.stateAfter model w actions s n)
    obtain ⟨r', hr', -, hrec⟩ := hes.takeTurn (A.entryBy hmodel (hw.after actions n) (actions n)
      (A.stateAfter model w actions s n) atom)
    obtain rfl := Except.ok.inj (hr.symm.trans hr')
    refine ⟨es ++ [A.entryBy hmodel (hw.after actions n) (actions n)
      (A.stateAfter model w actions s n) atom], ?_, ?_⟩
    · rw [stateAfter, hact]
      exact hrec
    · rw [List.map_append, hstates, List.range_succ, List.map_append]
      rfl

/-- The state that was recorded in a turn. -/
theorem getElem?_states_stateAfter
    (hs : Recorder.Recounts ([] : List (Recorder.Entry { v : World // Sound v })) s.recorder)
    {i : Nat} (hi : i < n) :
    (A.stateAfter model w actions s n).recorder.trace.states[i]? =
      some ((i : Int),
        A.factsOf (A.stateAfter model w actions s i).ledger (hw.after actions i)) := by
  obtain ⟨es, hes, hstates⟩ := A.exists_recounts_stateAfter hmodel hw hm actions s n hs
  have hentry : (es[i]?).map Recorder.Entry.state =
      some (A.factsOf (A.stateAfter model w actions s i).ledger (hw.after actions i)) := by
    rw [← List.getElem?_map, hstates, List.getElem?_map, List.getElem?_range hi]
    rfl
  obtain ⟨e, he, hstate⟩ := Option.map_eq_some_iff.1 hentry
  have hrecorded : (Recorder.recordedStates es)[i]? = some ((i : Int), e.state) := by
    rw [Recorder.recordedStates, List.getElem?_mapIdx, he]
    rfl
  obtain ⟨hlt, -⟩ := List.getElem?_eq_some_iff.1 hrecorded
  rw [hes.states, List.getElem?_append_left hlt, hrecorded, hstate]

end Hosted

/-! ### What the ledger lacks -/

/-- What was collected in the first `n` turns behind the back of an agent whose model was wrong
about the world at hand. -/
def overlooked (A : Agent) (wrong : Nat → Bool) (w : World) (actions : Nat → Action)
    (s : AgentState) (key : String) (n : Nat) : Nat :=
  ∑ i ∈ Finset.range n,
    if wrong (A.stateAfter (prematureModel wrong) w actions s i).simulations = true then
      (w.after actions (i + 1)).held key - (w.after actions i).held key
    else 0

variable {wrong : Nat → Bool}

/-- In a turn the ledger counts what is collected, unless the first answer is wrong. -/
theorem count_ledgerBy (wrong : Nat → Bool) (hw : Sound w) (a : Action) (s : AgentState)
    (hnodup : s.ledger.keys.Nodup) (hmem : key ∈ s.ledger.keys) (hkey : key ≠ backgroundKey) :
    (ledgerBy (isSound_prematureModel wrong) hw a s).count key +
        (if wrong s.simulations = true then (w.advance a).held key - w.held key else 0) =
      s.ledger.count key + ((w.advance a).held key - w.held key) := by
  obtain ⟨hsum, hle, -⟩ := hw.advance_counts a key
  have hanswer : (answers (isSound_prematureModel wrong) hw a s.simulations 0).1 =
      prematureModel wrong s.simulations w a := rfl
  rw [ledgerBy, Ledger.count_update hnodup, if_pos hmem, Ledger.collected, hw.count_picture hkey,
    Sound.count_picture _ hkey, hanswer]
  cases h : wrong s.simulations with
  | true =>
    have hsame : (prematureModel wrong s.simulations w a).keyCount key = w.keyCount key := by
      rw [prematureModel_of_wrong h]
      rfl
    rw [hsame, if_pos rfl]
    omega
  | false =>
    rw [prematureModel_of_right h, if_neg Bool.false_ne_true]
    omega

theorem keys_stateAfter (A : Agent) (hmodel : model.IsSound) (hw : Sound w) (hm : Measurable w)
    (actions : Nat → Action) (s : AgentState) (n : Nat) :
    (A.stateAfter model w actions s n).ledger.keys = s.ledger.keys := by
  induction n with
  | zero => rfl
  | succ n ih =>
    rw [A.ledger_stateAfter_succ hmodel hw hm actions s n, ledgerBy, Ledger.keys_update, ih]

/-- **What the ledger lacks** is what was collected in turns whose first answer was wrong. -/
theorem count_add_overlooked (A : Agent) (wrong : Nat → Bool) (hw : Sound w) (hm : Measurable w)
    (actions : Nat → Action) (s : AgentState) (hnodup : s.ledger.keys.Nodup) (hmem : key ∈ s.ledger.keys)
    (hkey : key ≠ backgroundKey) (n : Nat) :
    (A.stateAfter (prematureModel wrong) w actions s n).ledger.count key +
        A.overlooked wrong w actions s key n + w.held key =
      s.ledger.count key + (w.after actions n).held key := by
  have hkeys := A.keys_stateAfter (isSound_prematureModel wrong) hw hm actions s
  induction n with
  | zero => rfl
  | succ n ih =>
    have hle := (hw.after actions n).held_le_advance (actions n) key
    have hturn := count_ledgerBy wrong (hw.after actions n) (actions n)
      (A.stateAfter (prematureModel wrong) w actions s n) (by rwa [hkeys]) (by rwa [hkeys]) hkey
    rw [A.ledger_stateAfter_succ (isSound_prematureModel wrong) hw hm actions s n, overlooked,
      Finset.sum_range_succ, ← overlooked, after_succ]
    omega

/-- Nothing was overlooked just if nothing was collected in the turns whose first answer was
wrong. -/
theorem overlooked_eq_zero_iff (hw : Sound w) :
    A.overlooked wrong w actions s key n = 0 ↔
      ∀ i < n, wrong (A.stateAfter (prematureModel wrong) w actions s i).simulations = true →
        (w.after actions (i + 1)).held key = (w.after actions i).held key := by
  simp only [overlooked, Finset.sum_eq_zero_iff, Finset.mem_range, ite_eq_right_iff]
  refine forall₃_congr fun i _ _ => ?_
  have hle := (hw.after actions i).held_le_advance (actions i) key
  rw [after_succ]
  omega

/-! ### Whole games -/

/-- The agent's state before the first turn. -/
def freshState (A : Agent) (settings : Settings) : AgentState :=
  ⟨.ofDomain A.domain, settings.recorder, 0⟩

/-- With the counts of the inventory, the world has the same facts. -/
theorem factsOf_eq_of_agrees {l : Ledger} (hw : Sound w) (h : l.Agrees A.domain w) :
    A.factsOf l hw =
      A.domain.stateFacts A.mode A.connectivity hw.picture w.orientation fun k => w.held k := by
  rw [factsOf, Domain.stateFacts, Domain.stateFacts, Domain.collectedFacts, Domain.collectedFacts]
  congr 3
  exact List.filter_congr fun e he => by rw [h e.1 (Table.mem_keys_of_mem he)]

/-- The agent after `n` turns of a whole game, with a model that is wrong at times. -/
def hosted (A : Agent) (wrong : Nat → Bool) (w : World) (actions : Nat → Action)
    (settings : Settings) : Nat → AgentState :=
  A.stateAfter (prematureModel wrong) w actions (A.freshState settings)

variable {settings : Settings}

theorem count_hosted_add_overlooked (A : Agent) (wrong : Nat → Bool) (actions : Nat → Action)
    (settings : Settings) (hw : Sound w) (hm : Measurable w) (hheld : w.held key = 0)
    (hmem : key ∈ A.domain.pickups.keys) (hkey : key ≠ backgroundKey) (n : Nat) :
    (A.hosted wrong w actions settings n).ledger.count key +
        A.overlooked wrong w actions (A.freshState settings) key n =
      (w.after actions n).held key := by
  have hcount := A.count_add_overlooked wrong hw hm actions (A.freshState settings)
    (Ledger.nodup_keys_ofDomain A.domain) hmem hkey n
  have hfresh : (A.freshState settings).ledger.count key = 0 := Ledger.count_ofDomain A.domain key
  rw [hheld, hfresh, Nat.add_zero, Nat.zero_add] at hcount
  exact hcount

/-- The ledger agrees with the inventory just if nothing was collected behind its back. -/
theorem agrees_hosted_iff (hback : backgroundKey ∉ A.domain.pickups.keys) (hw : Sound w)
    (hm : Measurable w) (hheld : ∀ key, w.held key = 0) :
    (A.hosted wrong w actions settings n).ledger.Agrees A.domain (w.after actions n) ↔
      ∀ i < n, wrong (A.hosted wrong w actions settings i).simulations = true →
        ∀ key ∈ A.domain.pickups.keys,
          (w.after actions (i + 1)).held key = (w.after actions i).held key := by
  have hcount {key : String} (hmem : key ∈ A.domain.pickups.keys) :=
    A.count_hosted_add_overlooked wrong actions settings hw hm (hheld key) hmem
      (fun h => hback (h ▸ hmem)) n
  constructor
  · intro h i hi hwrong key hmem
    have hnone : A.overlooked wrong w actions (A.freshState settings) key n = 0 := by
      have heq := h key hmem
      have := hcount hmem
      omega
    exact (overlooked_eq_zero_iff hw).1 hnone i hi hwrong
  · intro h key hmem
    have hnone : A.overlooked wrong w actions (A.freshState settings) key n = 0 :=
      (overlooked_eq_zero_iff hw).2 fun i hi hwrong => h i hi hwrong key hmem
    have := hcount hmem
    omega

/-- **When the ledger keeps up with the inventory.** The agent plays a game whose host makes the
steps, and its model is wrong about the end of the game at any of the times it is asked. No turn
fails. What the ledger has counted and what was overlooked make up the inventory; so the ledger
agrees with the inventory just if nothing was collected in a turn whose first answer was wrong. The
state recorded in a turn is that of the world with the counts of the ledger, and with those of the
inventory if the two agree. -/
theorem exists_start_agrees_iff (D : Domain) (hback : backgroundKey ∉ D.pickups.keys) (g : Game)
    (p : Precision) (hm : (World.ofGame g p).Measurable) (settings : Settings)
    (wrong : Nat → Bool) (actions : Nat → Action) :
    ∃ A, Agent.start D settings.mode (World.ofGame g p) = .ok A ∧ A.domain = D ∧ ∀ n,
      (∃ turn, (A.act (prematureModel wrong) ((World.ofGame g p).after actions n) (actions n)
        (A.hosted wrong (World.ofGame g p) actions settings n)).2 = .ok turn) ∧
      (∀ key ∈ D.pickups.keys,
        (A.hosted wrong (World.ofGame g p) actions settings n).ledger.count key +
            A.overlooked wrong (World.ofGame g p) actions (A.freshState settings) key n =
          ((World.ofGame g p).after actions n).held key) ∧
      ((A.hosted wrong (World.ofGame g p) actions settings n).ledger.Agrees D
          ((World.ofGame g p).after actions n) ↔
        ∀ i < n, wrong (A.hosted wrong (World.ofGame g p) actions settings i).simulations = true →
          ∀ key ∈ D.pickups.keys, ((World.ofGame g p).after actions (i + 1)).held key =
            ((World.ofGame g p).after actions i).held key) ∧
      ∀ i < n, ∃ shown facts, ((World.ofGame g p).after actions i).snapshot = .ok shown ∧
        (A.hosted wrong (World.ofGame g p) actions settings n).recorder.trace.states[i]? =
          some ((i : Int), facts) ∧
        D.groundState A.mode A.connectivity shown ((World.ofGame g p).after actions i).orientation
          (fun k => (A.hosted wrong (World.ofGame g p) actions settings i).ledger.count k) =
            .ok facts ∧
        ((A.hosted wrong (World.ofGame g p) actions settings i).ledger.Agrees D
            ((World.ofGame g p).after actions i) →
          D.groundState A.mode A.connectivity shown ((World.ofGame g p).after actions i).orientation
            (fun k => ((World.ofGame g p).after actions i).held k) = .ok facts) := by
  have hw := World.sound_ofGame g p
  have hmodel := isSound_prematureModel wrong
  refine ⟨atStart D settings.mode hw, start_eq D settings.mode hw, rfl, fun n => ⟨?_, ?_, ?_, ?_⟩⟩
  · exact exists_act_eq_ok _ hmodel hw hm actions _ n
  · exact fun key hmem => count_hosted_add_overlooked _ wrong actions settings hw hm
      (held_ofGame g p key) hmem (fun h => hback (h ▸ hmem)) n
  · exact agrees_hosted_iff hback hw hm (held_ofGame g p)
  · intro i hi
    have hsound := hw.after actions i
    refine ⟨hsound.picture, _, hsound.snapshot_eq, getElem?_states_stateAfter _ hmodel hw hm actions
      _ n (Recorder.recounts_start _ _) hi, Domain.groundState_eq .., fun hagrees => ?_⟩
    rw [Domain.groundState_eq, factsOf_eq_of_agrees hsound hagrees]
    rfl

/-! ### A small game -/

open Episode

/-- The corridor, to be played for three steps. -/
def longCorridor : Game := ⟨{ corridorTables with maxSteps := 3 }, by decide +kernel⟩

/-- A wrong answer does no harm while the avatar waits, and does as soon as it takes the gem. -/
theorem exists_start_longCorridor_agrees :
    (backgroundKey ∉ gemDomain.pickups.keys ∧ (World.ofGame longCorridor .binary64).Measurable) ∧
      ∃ A, Agent.start gemDomain .cell (World.ofGame longCorridor .binary64) = .ok A ∧
        (A.hosted (fun _ => true) (World.ofGame longCorridor .binary64)
          (fun i => if i = 0 then .use else .move .right) .standard 1).ledger.Agrees gemDomain
            ((World.ofGame longCorridor .binary64).after
              (fun i => if i = 0 then .use else .move .right) 1) ∧
        ¬ (A.hosted (fun _ => true) (World.ofGame longCorridor .binary64)
          (fun i => if i = 0 then .use else .move .right) .standard 2).ledger.Agrees gemDomain
            ((World.ofGame longCorridor .binary64).after
              (fun i => if i = 0 then .use else .move .right) 2) := by
  have hback : backgroundKey ∉ gemDomain.pickups.keys := by decide
  have hm : (World.ofGame longCorridor .binary64).Measurable := fun _ => by decide
  refine ⟨⟨hback, hm⟩, ?_⟩
  obtain ⟨A, hstart, -, hturns⟩ := exists_start_agrees_iff gemDomain hback longCorridor .binary64 hm
    .standard (fun _ => true) fun i => if i = 0 then .use else .move .right
  refine ⟨A, hstart, (hturns 1).2.2.1.2 fun i hi _ key _ => ?_, fun h => ?_⟩
  · obtain rfl : i = 0 := by omega
    rfl
  · have hkept := (hturns 2).2.2.1.1 h 1 (by decide) rfl "gem" (by decide)
    exact absurd hkept (by decide)

/-- **A false ending can lose a gem for good.** The avatar takes the gem in its first step, in a
turn whose answers all say that the game was over; the game goes on, and the gem is in the inventory
but not in the ledger. -/
theorem exists_start_longCorridor_count_lt_held :
    backgroundKey ∉ gemDomain.pickups.keys ∧ "gem" ∈ gemDomain.pickups.keys ∧
      ((World.ofGame longCorridor .binary64).after (fun _ => .move .right) 1).ended = false ∧
      ((World.ofGame longCorridor .binary64).after (fun _ => .move .right) 1).held "gem" = 1 ∧
      ∃ A, Agent.start gemDomain .cell (World.ofGame longCorridor .binary64) = .ok A ∧
        (A.hosted (fun _ => true) (World.ofGame longCorridor .binary64) (fun _ => .move .right)
          .standard 1).ledger.count "gem" = 0 := by
  have hmem : "gem" ∈ gemDomain.pickups.keys := by decide
  have hm : (World.ofGame longCorridor .binary64).Measurable := fun _ => by decide
  have hw := World.sound_ofGame longCorridor .binary64
  have hheld : ((World.ofGame longCorridor .binary64).after (fun _ => .move .right) 1).held "gem" =
      1 := by decide
  refine ⟨by decide, hmem, by decide, hheld, atStart gemDomain .cell hw, start_eq _ _ hw, ?_⟩
  have hcount := count_hosted_add_overlooked (atStart gemDomain .cell hw) (fun _ => true)
    (fun _ => .move .right) .standard hw hm (held_ofGame longCorridor .binary64 "gem") hmem
    (by decide) 1
  rw [overlooked, Finset.sum_range_one, if_pos rfl, hheld, after_zero, held_ofGame] at hcount
  omega

end Agent

end PlayTrace
