import PlayTrace.Episode
import PlayTrace.Proofs.Agent
import PlayTrace.Proofs.World.Run

/-!
# Games in play

A game in play is a world, the state of the agent and a source of randomness, and each turn changes
all three. They change side by side: the source depends on the source alone, the world on the
actions drawn from it, the ledger on the worlds, and the recorder on all of them. So each has a
sequence of its own, written down without the others, and `Play.Stands` says that a game in play
stands where these sequences say after a number of turns. No turn fails, and a turn leads from one
standing to the next.

The recorder is the only part that knows how far it may look ahead, and only through the number of
candidates that it asks for.

## Main definitions

* `Draw.sourceAfter`, `Draw.actionAt` — the source and the actions drawn from it
* `Agent.ledgerAt`, `Agent.entryAt` — the ledger, and the entries that the recorder takes in
* `Play.Stands` — where a game in play stands
* `Episode.Course` — when an episode ends and what is done in it
* `Episode.account` — the episode that a course leads to

## Main results

* `Play.Stands.turn` — a turn
* `Play.Stands.turns` — any number of turns, up to the end of the game
* `Play.Stands.trace_eq` — the trace of a game that has ended
* `Episode.Course.play_eq` — a whole episode
-/

namespace PlayTrace

variable {σ : Type}

/-! ### Drawing actions -/

namespace Draw

/-- The source after `n` actions were drawn from it. -/
def sourceAfter (draw : Draw σ) (s : σ) : Nat → σ
  | 0 => s
  | n + 1 => (draw Action.all.length (draw.sourceAfter s n)).2

/-- The action that is drawn after `n` others. -/
def actionAt (draw : Draw σ) (s : σ) (n : Nat) : Action :=
  Action.all.get
    ⟨(draw Action.all.length (draw.sourceAfter s n)).1 % Action.all.length,
      Nat.mod_lt _ (by decide)⟩

theorem choose_all (draw : Draw σ) (s : σ) (n : Nat) :
    draw.choose Action.all (draw.sourceAfter s n) =
      .ok (draw.actionAt s n, draw.sourceAfter s (n + 1)) := by
  have hlt : (draw Action.all.length (draw.sourceAfter s n)).1 % Action.all.length <
      Action.all.length := Nat.mod_lt _ (by decide)
  have hindex : draw.index Action.all.length (draw.sourceAfter s n) =
      .ok ((draw Action.all.length (draw.sourceAfter s n)).1 % Action.all.length,
        draw.sourceAfter s (n + 1)) := rfl
  rw [choose, hindex, ok_bind]
  simp only [List.getElem?_eq_getElem hlt]
  rfl

end Draw

/-! ### Ledgers and entries -/

namespace Agent

open World

variable {w : World}

/-- The ledger after the first `n` of a sequence of actions. -/
def ledgerAt (l : Ledger) (hw : Sound w) (actions : Nat → Action) : Nat → Ledger
  | 0 => l
  | n + 1 => ledgerAfter (ledgerAt l hw actions n) (hw.after actions n) (actions n)

@[simp] theorem keys_ledgerAt (l : Ledger) (hw : Sound w) (actions : Nat → Action) (n : Nat) :
    (ledgerAt l hw actions n).keys = l.keys := by
  induction n with
  | zero => rfl
  | succ n ih => rw [ledgerAt, ledgerAfter, Ledger.keys_update, ih]

/-- What the recorder gets to see of the turn after `n` others. -/
def entryAt (A : Agent) (l : Ledger) (hw : Sound w) (actions : Nat → Action) (atoms : Nat → Atom)
    (n : Nat) : Recorder.Entry Unit :=
  A.entry (ledgerAt l hw actions n) (hw.after actions n) (actions n) (atoms n)

/-- The facts of the world after the first `n` of a sequence of actions. -/
def factsAt (A : Agent) (l : Ledger) (hw : Sound w) (actions : Nat → Action) (n : Nat) :
    List Fact :=
  A.factsOf (ledgerAt l hw actions n) (hw.after actions n)

/-- A sequence of atoms describes a sequence of actions. -/
def Narrates (A : Agent) (l : Ledger) (hw : Sound w) (actions : Nat → Action) (atoms : Nat → Atom) :
    Prop :=
  ∀ n, A.Describes (ledgerAt l hw actions n) (hw.after actions n) (actions n) (atoms n)

theorem exists_narrates (A : Agent) (l : Ledger) (hw : Sound w) (hm : Measurable w)
    (actions : Nat → Action) : ∃ atoms, A.Narrates l hw actions atoms :=
  Classical.axiomOfChoice fun n =>
    A.exists_describes (ledgerAt l hw actions n) (hw.after actions n) (hm.after hw actions n)
      (actions n)

end Agent

/-! ### Turns -/

namespace Play

open World Agent

variable {A : Agent} {w : World} {hw : Sound w} {draw : Draw σ} {s : σ} {atoms : Nat → Atom}
  {k m n : Nat} {p : Play σ}

/-- A game in play stands where it does after `n` turns. -/
structure Stands (A : Agent) (hw : Sound w) (draw : Draw σ) (s : σ) (atoms : Nat → Atom) (k n : Nat)
    (p : Play σ) : Prop where
  world : p.world = w.after (draw.actionAt s) n
  source : p.source = draw.sourceAfter s n
  ledger : p.agent.ledger = ledgerAt (.ofDomain A.domain) hw (draw.actionAt s) n
  lookahead : p.agent.recorder.lookahead = k
  recorder : Recorder.Recounts
    ((List.range n).map (A.entryAt (.ofDomain A.domain) hw (draw.actionAt s) atoms))
    p.agent.recorder

theorem stands_start (A : Agent) (hw : Sound w) (draw : Draw σ) (s : σ) (atoms : Nat → Atom)
    (settings : Settings) :
    Stands A hw draw s atoms settings.lookahead.toNat 0 (Play.start A settings w s) :=
  ⟨rfl, rfl, rfl, rfl, Recorder.recounts_start _ _⟩

/-- **A turn.** -/
theorem Stands.turn (h : Stands A hw draw s atoms k n p)
    (hatoms : A.Narrates (.ofDomain A.domain) hw (draw.actionAt s) atoms) :
    ∃ q, p.turn A draw = .ok q ∧ Stands A hw draw s atoms k (n + 1) q := by
  obtain ⟨world, agent, source⟩ := p
  obtain ⟨rfl, rfl, hledger, hlook, hrec⟩ := h
  simp only at hledger hlook hrec
  obtain ⟨r, hr, hrlook, hrrec⟩ :=
    hrec.takeTurn (A.entryAt (.ofDomain A.domain) hw (draw.actionAt s) atoms n)
  rw [entryAt, ← hledger] at hr
  have hatom := hatoms n
  rw [← hledger] at hatom
  obtain ⟨asked, warning?, hact⟩ := A.act_eq (hw.after (draw.actionAt s) n) hatom hr
  have hsound := hw.after (draw.actionAt s) n
  refine ⟨⟨w.after (draw.actionAt s) (n + 1),
    ⟨ledgerAfter agent.ledger hsound (draw.actionAt s n), r, asked⟩,
    draw.sourceAfter s (n + 1)⟩, ?_, rfl, rfl, ?_, hrlook.trans hlook, ?_⟩
  · rw [Play.turn, draw.choose_all s n, ok_bind]
    simp only [hact]
    rfl
  · rw [ledgerAt, ← hledger]
  · rw [List.range_succ, List.map_append]
    exact hrrec

/-- **Any number of turns.** They lead up to the end of the game and not beyond. -/
theorem Stands.turns (h : Stands A hw draw s atoms k m p) (hmn : m ≤ n)
    (hatoms : A.Narrates (.ofDomain A.domain) hw (draw.actionAt s) atoms)
    (hend : (w.after (draw.actionAt s) n).ended = true)
    (hgoes : ∀ i < n, (w.after (draw.actionAt s) i).ended = false) (fuel : Nat) :
    ∃ q, p.turns A draw fuel = .ok q ∧ Stands A hw draw s atoms k (min (m + fuel) n) q := by
  induction fuel generalizing m p with
  | zero =>
    refine ⟨p, rfl, ?_⟩
    rwa [Nat.add_zero, Nat.min_eq_left hmn]
  | succ fuel ih =>
    rw [Play.turns, h.world]
    rcases Nat.lt_or_eq_of_le hmn with hlt | rfl
    · obtain ⟨q, hq, hstands⟩ := h.turn hatoms
      obtain ⟨q', hq', hstands'⟩ := ih hstands hlt
      refine ⟨q', ?_, ?_⟩
      · rw [hgoes m hlt, if_neg Bool.false_ne_true, hq]
        exact hq'
      · rwa [Nat.add_right_comm] at hstands'
    · refine ⟨p, if_pos hend, ?_⟩
      rwa [Nat.min_eq_right (Nat.le_add_right m (fuel + 1))]

/-! ### The end -/

/-- Going through the values of a sequence with their numbers. -/
theorem mapIdx_map_range {α β : Type} (f : Nat → α) (g : Nat → α → β) (n : Nat) :
    ((List.range n).map f).mapIdx g = (List.range n).map fun i => g i (f i) := by
  induction n with
  | zero => rfl
  | succ n ih =>
    rw [List.range_succ, List.map_append, List.map_singleton, List.mapIdx_append, ih,
      List.map_append, List.length_map, List.length_range]
    simp

/-- The last probe finds the end, and what it finds is the state that a further turn would have
recorded. -/
theorem pending?_range (A : Agent) (l : Ledger) (hw : Sound w) (actions : Nat → Action)
    (atoms : Nat → Atom) (hk : 0 < k) (hn : 0 < n) (hend : (w.after actions n).ended = true) :
    Recorder.pending? k ((List.range n).map (A.entryAt l hw actions atoms)) =
      some (A.factsAt l hw actions n) := by
  obtain ⟨m, rfl⟩ : ∃ m, n = m + 1 := ⟨n - 1, by omega⟩
  rw [List.range_succ, List.map_append, List.map_singleton, Recorder.pending?_append_singleton,
    entryAt, terminal?_entry _ _ _ _ _ hk]
  exact if_pos hend

/-- **The trace of a game that has ended.** Every world has its state, the last one included. -/
theorem Stands.trace_eq (h : Stands A hw draw s atoms k n p) (hk : 0 < k) (hn : 0 < n)
    (hend : (w.after (draw.actionAt s) n).ended = true) :
    p.agent.recorder.trace =
      ⟨(List.range (n + 1)).map fun (i : Nat) =>
          ((i : Int), A.factsAt (.ofDomain A.domain) hw (draw.actionAt s) i),
        (List.range n).map fun (i : Nat) => ((i : Int), atoms i)⟩ := by
  have hstates := h.recorder.states
  rw [h.lookahead, pending?_range A _ hw _ atoms hk hn hend, Recorder.recordedStates,
    mapIdx_map_range, List.length_map, List.length_range] at hstates
  have hactions := h.recorder.actions
  rw [Recorder.recordedActions, mapIdx_map_range] at hactions
  have htrace : p.agent.recorder.trace =
      ⟨p.agent.recorder.trace.states, p.agent.recorder.trace.actions⟩ := rfl
  rw [htrace, hstates, hactions, List.range_succ, List.map_append]
  rfl

theorem Stands.turn_eq (h : Stands A hw draw s atoms k n p) : p.agent.recorder.turn = n := by
  rw [h.recorder.turn, List.length_map, List.length_range]

end Play

/-! ### Episodes -/

namespace Episode

open World Agent

variable {w : World} {hw : Sound w} {draw : Draw σ} {s : σ} {atoms : Nat → Atom} {n : Nat}
  {D : Domain} {mode : Mode}

/-- The course of an episode: it ends after `n` turns and not before, and `atoms` describes what is
done in them. How far the recorder looks ahead has no part in it. -/
structure Course (D : Domain) (mode : Mode) (hw : Sound w) (draw : Draw σ) (s : σ) (n : Nat)
    (atoms : Nat → Atom) : Prop where
  pos : 0 < n
  le_remaining : n ≤ w.remaining
  ended : (w.after (draw.actionAt s) n).ended = true
  goes_on : ∀ i < n, (w.after (draw.actionAt s) i).ended = false
  narrates : (atStart D mode hw).Narrates (.ofDomain D) hw (draw.actionAt s) atoms

theorem exists_course (D : Domain) (mode : Mode) (hw : Sound w) (hm : Measurable w)
    (hended : w.ended = false) (draw : Draw σ) (s : σ) :
    ∃ n atoms, Course D mode hw draw s n atoms := by
  obtain ⟨n, hle, hend, hgoes⟩ := hw.exists_end (draw.actionAt s)
  obtain ⟨atoms, hatoms⟩ :=
    exists_narrates (atStart D mode hw) (.ofDomain D) hw hm (draw.actionAt s)
  refine ⟨n, atoms, Nat.pos_of_ne_zero ?_, hle, hend, hgoes, hatoms⟩
  rintro rfl
  rw [after_zero, hended] at hend
  cases hend

/-- The turns of an episode. -/
theorem Course.turns (h : Course D mode hw draw s n atoms) (settings : Settings) (m : Nat) :
    ∃ q, (Play.start (atStart D mode hw) settings w s).turns (atStart D mode hw) draw m = .ok q ∧
      Play.Stands (atStart D mode hw) hw draw s atoms settings.lookahead.toNat (min m n) q := by
  obtain ⟨q, hq, hstands⟩ := (Play.stands_start (atStart D mode hw) hw draw s atoms settings).turns
    (Nat.zero_le n) h.narrates h.ended h.goes_on m
  rw [Nat.zero_add] at hstands
  exact ⟨q, hq, hstands⟩

/-- The account of `n` turns: the facts of all worlds that they lead through, and `atoms` for what
is done in between. -/
def account (D : Domain) (mode : Mode) (hw : Sound w) (draw : Draw σ) (s : σ) (n : Nat)
    (atoms : Nat → Atom) : Episode where
  world := w.after (draw.actionAt s) n
  ledger := ledgerAt (.ofDomain D) hw (draw.actionAt s) n
  turns := n
  trace :=
    ⟨(List.range (n + 1)).map fun (i : Nat) =>
        ((i : Int), (atStart D mode hw).factsAt (.ofDomain D) hw (draw.actionAt s) i),
      (List.range n).map fun (i : Nat) => ((i : Int), atoms i)⟩

theorem getElem?_states_account {i : Nat} (hi : i ≤ n) :
    (account D mode hw draw s n atoms).trace.states[i]? =
      some ((i : Int), (atStart D mode hw).factsAt (.ofDomain D) hw (draw.actionAt s) i) := by
  rw [account, List.getElem?_map, List.getElem?_range (Nat.lt_succ_of_le hi)]
  rfl

theorem getElem?_actions_account {i : Nat} (hi : i < n) :
    (account D mode hw draw s n atoms).trace.actions[i]? = some ((i : Int), atoms i) := by
  rw [account, List.getElem?_map, List.getElem?_range hi]
  rfl

/-- **A whole episode.** -/
theorem Course.play_eq (h : Course D mode hw draw s n atoms) {settings : Settings}
    (hmode : settings.mode = mode) :
    play D settings draw w s = .ok (account D mode hw draw s n atoms) := by
  obtain ⟨q, hq, hstands⟩ := h.turns settings w.remaining
  rw [Nat.min_eq_right h.le_remaining] at hstands
  have hk : 0 < settings.lookahead.toNat := by
    have := settings.lookahead_pos
    omega
  rw [play, hmode, start_eq D mode hw, ok_bind, hq, ok_bind, hstands.world, hstands.ledger,
    hstands.turn_eq, hstands.trace_eq hk h.pos h.ended]
  rfl

/-- No episode is over before its first turn. -/
theorem turns_pos (hw : Sound w) (hm : Measurable w) (hended : w.ended = false)
    {settings : Settings} {e : Episode} (h : play D settings draw w s = .ok e) : 0 < e.turns := by
  obtain ⟨n, atoms, hcourse⟩ := exists_course D settings.mode hw hm hended draw s
  obtain rfl := Except.ok.inj (h.symm.trans (hcourse.play_eq rfl))
  exact hcourse.pos

/-! ### Two small games -/

/-- A domain with cells and gems. -/
def gemTables : DomainTables where
  avatar := "?a"
  cell := "?c"
  types := .ofList [("?a", "avatar"), ("?c", "cell"), ("?n", "cell"), ("?g", "gem")]
  elements := .ofList [("avatar", [⟨"", "AT", [.placeholder "?a", .placeholder "?c"]⟩]),
    ("gem", [⟨"", "LIES", [.placeholder "?g", .placeholder "?c"]⟩])]
  pickups := .ofList [("gem", ⟨"", "HAS", [.placeholder "?a"]⟩)]
  connections := .ofList (Direction.all.map fun d =>
    (d, ⟨"", "NEXT_" ++ d.name, [.placeholder "?c", .placeholder "?n"]⟩))
  orientations := none

/-- The domain of a gem. -/
def gemDomain : Domain := ⟨gemTables, by decide⟩

/-- A level with the avatar on the left and a gem on the right, to be played for one step. -/
def corridorTables : GameTables where
  level := ["AG"]
  legend := .ofList [('A', ["avatar"]), ('G', ["gem"])]
  resources := ["gem"]
  solids := []
  goals := []
  avatarKey := "avatar"
  orientation := .right
  rotateInPlace := false
  maxSteps := 1

/-- The game of a corridor. -/
def corridor : Game := ⟨corridorTables, by decide +kernel⟩

/-- A level with a gem two steps away, to be played for two steps. -/
def passageTables : GameTables where
  level := ["A.G"]
  legend := .ofList [('A', ["avatar"]), ('.', []), ('G', ["gem"])]
  resources := ["gem"]
  solids := []
  goals := []
  avatarKey := "avatar"
  orientation := .right
  rotateInPlace := false
  maxSteps := 2

/-- The game of a passage. -/
def passage : Game := ⟨passageTables, by decide +kernel⟩

/-- A source that always draws a step to the right. -/
def rightward : Draw Unit := fun _ s => (3, s)

end Episode

end PlayTrace
