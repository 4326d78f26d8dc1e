import PlayTrace.Agent
import PlayTrace.Proofs.Grounding.Ledger
import PlayTrace.Proofs.Grounding.Reading
import PlayTrace.Proofs.Recorder.Rollback
import PlayTrace.Proofs.World.Copy
import PlayTrace.Proofs.World.Places

/-!
# A turn of the agent

In a turn the agent looks at the world, asks the model for a successor, counts, describes the
action, records, and probes. In a sound world that a machine can index none of this fails. What a
turn makes of the ledger and of the recorder can then be said without the agent: the ledger is
updated by the snapshots of the world and its successor, and the recorder takes in one entry. With a
model that is always right, the entry offers the same candidate again and again.

## Main definitions

* `Agent.factsOf` — the facts of a sound world
* `Agent.Describes` — an atom describes an action
* `Agent.entry` — what the recorder gets to see of a turn

## Main results

* `World.Sound.faithfulModel_eq` — the model answers with the step that the world will make
* `Agent.exists_describes` — every action can be described
* `Agent.act_eq` — a turn
-/

namespace PlayTrace

/-- **The model is always right** about a sound world, which is what a copy of it is. -/
theorem World.Sound.faithfulModel_eq {w : World} (hw : Sound w) (n : Nat) (a : Action) :
    faithfulModel n w a = w.advance a := by
  rw [faithfulModel, hw.advancedCopy_eq]
  rfl

namespace Agent

open World

variable {w : World} {a : Action} {b : Nat}

/-! ### Looking -/

/-- The facts of a sound world, given what was collected so far. -/
def factsOf (A : Agent) (l : Ledger) (hw : Sound w) : List Fact :=
  A.domain.stateFacts A.mode A.connectivity hw.picture w.orientation fun k => l.count k

theorem groundWorld_eq (A : Agent) (l : Ledger) (hw : Sound w) :
    A.groundWorld l w = .ok (A.factsOf l hw) := by
  rw [groundWorld, hw.snapshot_eq, ok_bind, Domain.groundState_eq]
  rfl

/-- The agent of a game that begins with a sound world. -/
def atStart (D : Domain) (mode : Mode) (hw : Sound w) : Agent :=
  ⟨D, mode, D.connectivityOf hw.picture⟩

theorem start_eq (D : Domain) (mode : Mode) (hw : Sound w) :
    start D mode w = .ok (atStart D mode hw) := by
  rw [start, hw.snapshot_eq, ok_bind, D.build_eq]
  rfl

theorem look_eq (A : Agent) (l : Ledger) (hw : Sound w) {source : Cell}
    (hsource : w.avatarCell = .ok source) :
    A.look l w = .ok (A.factsOf l hw, hw.picture, source) := by
  rw [look, groundWorld_eq A l hw, ok_bind, hw.snapshot_eq, ok_bind, hsource]
  rfl

/-! ### Describing -/

/-- The ledger after an action. -/
def ledgerAfter (l : Ledger) (hw : Sound w) (a : Action) : Ledger :=
  l.update hw.picture (hw.advance a).picture

/-- What an action collects, by key. -/
def takings (l : Ledger) (hw : Sound w) (a : Action) : Table String Nat :=
  l.deltas hw.picture (hw.advance a).picture

theorem pickedResource_ok (hw : Sound w) (hb : Bounded w b) (a : Action) {source : Cell}
    (hsource : source.Within (b + 5)) (deltas : Table String Nat) :
    ∃ picked, pickedResource w a source deltas = .ok picked := by
  cases a with
  | use => exact ⟨none, rfl⟩
  | move d =>
    simp only [pickedResource]
    split
    · exact ⟨none, rfl⟩
    · obtain ⟨target, htarget, hwithin⟩ :=
        hw.positionOf_ok (hsource.neighbour d) (hb.reaches.mono (by omega))
      obtain ⟨found, hfound⟩ := hw.resourcesFrom_ok hb (hwithin.mono (by omega))
      rw [htarget, ok_bind, hfound]
      exact ⟨_, rfl⟩

/-- Whatever world follows and whatever was collected, an action can be described. -/
theorem exists_describe_eq_ok (A : Agent) (hw : Sound w) (hm : Measurable w) (after : World)
    (a : Action) (deltas : Table String Nat) :
    ∃ source grounded, w.avatarCell = .ok source ∧
      A.describe w after a source deltas = .ok grounded := by
  obtain ⟨b, hb⟩ := hm.exists_bounded
  obtain ⟨source, hsource, hwithin⟩ := hw.avatarCell_ok hb
  obtain ⟨picked, hpicked⟩ := pickedResource_ok hw hb a hwithin deltas
  obtain ⟨d, hd⟩ := hw.faces
  have halong : source.along w.orientation = .ok (source.neighbour d) := by
    rw [hd, Cell.along_ofDirection]
  obtain ⟨warning?, hatom⟩ := A.domain.groundAction_eq A.mode a after.orientation picked halong
  have hdescribe : A.describe w after a source deltas =
      A.domain.groundAction A.mode a source w.orientation after.orientation picked := by
    rw [describe, hpicked, ok_bind]
  exact ⟨source, _, hsource, hdescribe.trans hatom⟩

/-- An atom describes what an action does to a world, given what is counted. -/
def Describes (A : Agent) (l : Ledger) (hw : Sound w) (a : Action) (atom : Atom) : Prop :=
  ∃ source warning?, w.avatarCell = .ok source ∧
    A.describe w (w.advance a) a source (takings l hw a) = .ok ⟨atom, warning?⟩

/-- **Every action can be described.** -/
theorem exists_describes (A : Agent) (l : Ledger) (hw : Sound w) (hm : Measurable w) (a : Action) :
    ∃ atom, A.Describes l hw a atom := by
  obtain ⟨source, ⟨atom, warning?⟩, hsource, hdescribe⟩ :=
    A.exists_describe_eq_ok hw hm (w.advance a) a (takings l hw a)
  exact ⟨atom, source, warning?, hsource, hdescribe⟩

/-! ### Recording -/

/-- What the recorder gets to see of a turn. The model is always right, so all candidates are alike:
each is the world after the action. -/
def entry (A : Agent) (l : Ledger) (hw : Sound w) (a : Action) (atom : Atom) :
    Recorder.Entry Unit where
  state := A.factsOf l hw
  action := atom
  candidate := fun _ => ()
  isFinal := fun _ => (w.advance a).ended
  ground := fun _ => A.factsOf (ledgerAfter l hw a) (hw.advance a)

/-- All candidates are alike, so the first one decides. -/
theorem terminal?_entry (A : Agent) (l : Ledger) (hw : Sound w) (a : Action) (atom : Atom) {n : Nat}
    (hn : 0 < n) :
    (A.entry l hw a atom).terminal? n =
      if (w.advance a).ended then some (A.factsOf (ledgerAfter l hw a) (hw.advance a))
      else none := by
  obtain ⟨m, rfl⟩ : ∃ m, n = m + 1 := ⟨n - 1, by omega⟩
  rw [Recorder.Entry.terminal?, Recorder.firstFinal?, List.range_succ_eq_map, List.find?_cons]
  cases hended : (w.advance a).ended with
  | true => simp [entry, hended]
  | false => simp [entry, hended]

/-- **A turn.** The ledger is updated, and the recorder takes in the entry of the turn. -/
theorem act_eq (A : Agent) (hw : Sound w) {s : AgentState} {atom : Atom}
    (hatom : A.Describes s.ledger hw a atom) {r : Recorder}
    (hr : s.recorder.takeTurn (A.entry s.ledger hw a atom) = .ok r) :
    ∃ asked warning?, A.act faithfulModel w a s =
      (⟨ledgerAfter s.ledger hw a, r, asked⟩, .ok ⟨atom, warning?⟩) := by
  obtain ⟨source, warning?, hsource, hdescribe⟩ := hatom
  have hdescribe' : A.describe w (w.advance a) a source
      (s.ledger.deltas hw.picture (hw.advance a).picture) = .ok ⟨atom, warning?⟩ := hdescribe
  have hprobe := Recorder.probe_eq (s.recorder.beginTurn.record (A.factsOf s.ledger hw) atom)
    (fun _ => w.advance a) World.ended (A.groundWorld (ledgerAfter s.ledger hw a))
    fun _ => groundWorld_eq A _ (hw.advance a)
  rw [ledgerAfter] at hprobe
  have hlook : (s.recorder.beginTurn.record (A.factsOf s.ledger hw) atom).lookahead =
      s.recorder.lookahead := Recorder.lookahead_beginTurn s.recorder
  rw [Recorder.takeTurn_eq] at hr
  obtain rfl := Except.ok.inj hr
  simp only [act, look_eq A _ hw hsource, hw.faithfulModel_eq, (hw.advance a).snapshot_eq,
    hdescribe', hprobe, hlook, entry]
  cases Recorder.firstFinal? (fun _ => (w.advance a).ended) s.recorder.lookahead <;>
    exact ⟨_, warning?, rfl⟩

end Agent

end PlayTrace
