import PlayTrace.Proofs.Episode.Run
import PlayTrace.Proofs.Grounding.Notations
import PlayTrace.Proofs.Grounding.Totality
import PlayTrace.Proofs.Recorder.Mirrors
import PlayTrace.Proofs.World.Start

/-!
# One game told in two notations

A game is played twice with the same draws, and told once with cells as objects and once in numbers.
The notation decides nothing but the words: the worlds, the ledgers and the turns are the same, and
what the one trace says of a turn is what the other says of it, in the other notation. Two games in
play that stand side by side stay so turn by turn, and if a turn fails, it fails in both for the
same reason.

## Main definitions

* `Play.SideBySide` — two games in play that stand side by side
* `Episode.SameStory` — one episode in two notations

## Main results

* `Play.SideBySide.turn`, `Play.SideBySide.turns` — a turn, and any number of turns
* `Episode.alike_play` — a whole episode
* `Episode.notations_agree` — the two notations agree about states, actions and episodes
-/

namespace PlayTrace

variable {σ : Type} {D : Domain} {g : Connectivity}

/-! ### Entries of a trace -/

/-- Two entries tell the state of one world, in two notations and with the number of its turn. -/
def Trace.SameStateEntry (D : Domain) (g : Connectivity) (world : Nat → World)
    (cell numeric : Int × List Fact) : Prop :=
  ∃ (i : Nat) (s : Snapshot), cell.1 = i ∧ numeric.1 = i ∧ (world i).snapshot = .ok s ∧
    D.SameState g s cell.2 numeric.2

/-- Two entries tell the action of one turn, in two notations and with its number. -/
def Trace.SameActionEntry (D : Domain) (world : Nat → World) (cell numeric : Int × Atom) : Prop :=
  ∃ i : Nat, cell.1 = i ∧ numeric.1 = i ∧
    D.SameAction (!(world i).orientation.isSame (world (i + 1)).orientation) cell.2 numeric.2

/-! ### A turn of the agent -/

section Turn

variable {world : Nat → World} {n : Nat}

namespace Agent

theorem alike_groundWorld (D : Domain) (g : Connectivity) (l : Ledger) (w : World) :
    Alike (fun cell numeric => ∃ s, w.snapshot = .ok s ∧ D.SameState g s cell numeric)
      (groundWorld ⟨D, .cell, g⟩ l w) (groundWorld ⟨D, .numeric, g⟩ l w) := by
  refine Alike.bind_same fun s hs => ?_
  rw [Domain.groundState_eq, Domain.groundState_eq]
  exact .ok ⟨s, hs, D.sameState_stateFacts g s w.orientation _⟩

theorem alike_look (D : Domain) (g : Connectivity) (l : Ledger) (w : World) :
    Alike (fun cell numeric =>
        (∃ s, w.snapshot = .ok s ∧ D.SameState g s cell.1 numeric.1) ∧ cell.2 = numeric.2)
      (look ⟨D, .cell, g⟩ l w) (look ⟨D, .numeric, g⟩ l w) :=
  (alike_groundWorld D g l w).bind fun _ _ hfacts =>
    Alike.bind_same fun _ _ => Alike.bind_same fun _ _ => .ok ⟨hfacts, rfl⟩

/-- What was collected is found out without a word about places, so it is the same in both. -/
theorem alike_describe (D : Domain) (g : Connectivity) (w after : World) (a : Action)
    (source : Cell) (deltas : Table String Nat) :
    Alike (D.SameGrounded (!w.orientation.isSame after.orientation))
      (describe ⟨D, .cell, g⟩ w after a source deltas)
      (describe ⟨D, .numeric, g⟩ w after a source deltas) :=
  Alike.bind_same fun picked _ => D.alike_groundAction a source _ _ picked

end Agent

namespace Recorder

/-- Two recorders that have recorded the first `n` turns of a run of worlds, in two notations. -/
structure SideBySide (D : Domain) (g : Connectivity) (world : Nat → World) (n : Nat)
    (r r' : Recorder) : Prop where
  mirrors : Mirrors (Trace.SameStateEntry D g world) (Trace.SameActionEntry D world) r r'
  turn : r.turn = n

variable {r r' : Recorder}

/-- The state and the action of a turn. -/
theorem SideBySide.record (h : SideBySide D g world n r r') {s : Snapshot}
    (hs : (world n).snapshot = .ok s) {facts facts' : List Fact}
    (hstate : D.SameState g s facts facts') {atom atom' : Atom}
    (haction :
      D.SameAction (!(world n).orientation.isSame (world (n + 1)).orientation) atom atom') :
    SideBySide D g world (n + 1) (r.beginTurn.record facts atom)
      (r'.beginTurn.record facts' atom') := by
  have hturn : r.beginTurn.turn = n := by rw [turn_beginTurn, h.turn]
  have hlabel : (r.beginTurn.turn : Int) = n := congrArg Nat.cast hturn
  exact ⟨h.mirrors.beginTurn.record ⟨n, s, hlabel, hlabel, hs, hstate⟩ ⟨n, hlabel, hlabel, haction⟩,
    congrArg (· + 1) hturn⟩

/-- The state that may turn out to be the last. -/
theorem SideBySide.probe (h : SideBySide D g world n r r') (l : Ledger) :
    Alike (fun p p' => SideBySide D g world n p.recorder p'.recorder)
      (r.probe (fun _ => world n) World.ended (Agent.groundWorld ⟨D, .cell, g⟩ l))
      (r'.probe (fun _ => world n) World.ended (Agent.groundWorld ⟨D, .numeric, g⟩ l)) := by
  have hlabel : (r.turn : Int) = n := congrArg Nat.cast h.turn
  have hground : ∀ _ : Nat, Alike (fun facts facts' =>
      Trace.SameStateEntry D g world (r.turn, facts) (r.turn, facts'))
      (Agent.groundWorld ⟨D, .cell, g⟩ l (world n))
      (Agent.groundWorld ⟨D, .numeric, g⟩ l (world n)) :=
    fun _ => (Agent.alike_groundWorld D g l (world n)).mono
      fun _ _ ⟨s, hs, hstate⟩ => ⟨n, s, hlabel, hlabel, hs, hstate⟩
  exact (h.mirrors.probe _ World.ended hground).mono
    fun _ _ ⟨hmirrors, hturn⟩ => ⟨hmirrors, hturn.trans h.turn⟩

end Recorder

/-- Two states of an agent that has played the first `n` turns of a run of worlds, and tells of them
in two notations. -/
structure AgentState.SideBySide (D : Domain) (g : Connectivity) (world : Nat → World) (n : Nat)
    (s s' : AgentState) : Prop where
  ledger : s.ledger = s'.ledger
  recorder : s.recorder.SideBySide D g world n s'.recorder

/-- **A turn in two notations.** Each step of it fails in both or in neither. -/
theorem Agent.alike_act {a : Action} {s s' : AgentState} (h : s.SideBySide D g world n s')
    (hw : World.Sound (world n)) (hstep : world (n + 1) = (world n).advance a) :
    Alike (fun _ _ =>
        (act ⟨D, .cell, g⟩ faithfulModel (world n) a s).1.SideBySide D g world (n + 1)
          (act ⟨D, .numeric, g⟩ faithfulModel (world n) a s').1)
      (act ⟨D, .cell, g⟩ faithfulModel (world n) a s).2
      (act ⟨D, .numeric, g⟩ faithfulModel (world n) a s').2 := by
  obtain ⟨ledger, recorder, asked⟩ := s
  obtain ⟨ledger', recorder', asked'⟩ := s'
  obtain ⟨hledger, hrecorder⟩ := h
  simp only at hledger hrecorder
  subst hledger
  simp only [act, hw.faithfulModel_eq, ← hstep]
  rcases (alike_look D g ledger (world n)).ok_or_error with
    ⟨⟨facts, before, source⟩, ⟨facts', _⟩, hlook, hlook', ⟨s, hs, hstate⟩, rfl⟩ |
    ⟨e, hlook, hlook'⟩
  case inr => simp only [hlook, hlook']; exact .error e
  simp only [hlook, hlook']
  cases (world (n + 1)).snapshot with
  | error e => exact .error e
  | ok after =>
    rcases (alike_describe D g (world n) (world (n + 1)) a source
      (ledger.deltas before after)).ok_or_error with
      ⟨grounded, grounded', hdescribe, hdescribe', haction, -⟩ | ⟨e, hdescribe, hdescribe'⟩
    case inr => simp only [hdescribe, hdescribe']; exact .error e
    simp only [hdescribe, hdescribe']
    have hrecorded := hrecorder.record hs hstate haction
    rcases (hrecorded.probe (ledger.update before after)).ok_or_error with
      ⟨probe, probe', hprobe, hprobe', hprobed⟩ | ⟨e, hprobe, hprobe'⟩
    case inr => simp only [hprobe, hprobe']; exact .error e
    simp only [hprobe, hprobe']
    exact .ok ⟨rfl, hprobed⟩

end Turn

/-! ### Games in play -/

namespace Play

/-- Two games in play that have been played for the first `n` turns of a run of worlds, with the
same draws and in two notations. -/
structure SideBySide (D : Domain) (g : Connectivity) (w : World) (draw : Draw σ) (s : σ) (n : Nat)
    (p p' : Play σ) : Prop where
  world : p.world = w.after (draw.actionAt s) n ∧ p'.world = w.after (draw.actionAt s) n
  source : p.source = draw.sourceAfter s n ∧ p'.source = draw.sourceAfter s n
  agent : p.agent.SideBySide D g (w.after (draw.actionAt s)) n p'.agent

variable {w : World} {draw : Draw σ} {s : σ} {n : Nat} {p p' : Play σ}

theorem sideBySide_start (D : Domain) (g : Connectivity) (w : World) (draw : Draw σ) (s : σ)
    (settings : Settings) :
    SideBySide D g w draw s 0 (Play.start ⟨D, .cell, g⟩ settings w s)
      (Play.start ⟨D, .numeric, g⟩ settings w s) :=
  ⟨⟨rfl, rfl⟩, ⟨rfl, rfl⟩, rfl, .start _ _ _ _, rfl⟩

/-- **A turn.** -/
theorem SideBySide.turn (h : SideBySide D g w draw s n p p') (hw : World.Sound w) :
    Alike (SideBySide D g w draw s (n + 1)) (p.turn ⟨D, .cell, g⟩ draw)
      (p'.turn ⟨D, .numeric, g⟩ draw) := by
  obtain ⟨world, agent, source⟩ := p
  obtain ⟨world', agent', source'⟩ := p'
  obtain ⟨⟨rfl, rfl⟩, ⟨rfl, rfl⟩, hagent⟩ := h
  simp only [Play.turn, draw.choose_all s n, ok_bind]
  exact (Agent.alike_act hagent (hw.after _ n) rfl).bind fun _ _ hacted =>
    .ok ⟨⟨rfl, rfl⟩, ⟨rfl, rfl⟩, hacted⟩

/-- **Any number of turns.** The games stop together, for they see the same world. -/
theorem SideBySide.turns (h : SideBySide D g w draw s n p p') (hw : World.Sound w) (fuel : Nat) :
    Alike (fun q q' => ∃ m, SideBySide D g w draw s m q q') (p.turns ⟨D, .cell, g⟩ draw fuel)
      (p'.turns ⟨D, .numeric, g⟩ draw fuel) := by
  induction fuel generalizing n p p' with
  | zero => exact .ok ⟨n, h⟩
  | succ fuel ih =>
    rw [Play.turns, Play.turns, h.world.1, h.world.2]
    split
    · exact .ok ⟨n, h⟩
    · exact (h.turn hw).bind fun _ _ hturned => ih hturned

end Play

/-! ### Episodes -/

namespace Episode

/-- One episode in two notations: the same end, the same ledger, as many turns, and traces that
correspond entry by entry. -/
structure SameStory (D : Domain) (g : Connectivity) (world : Nat → World) (cell numeric : Episode) :
    Prop where
  world_eq : cell.world = numeric.world
  ledger_eq : cell.ledger = numeric.ledger
  turns_eq : cell.turns = numeric.turns
  states : List.Forall₂ (Trace.SameStateEntry D g world) cell.trace.states numeric.trace.states
  actions : List.Forall₂ (Trace.SameActionEntry D world) cell.trace.actions numeric.trace.actions

/-- **An episode in two notations.** -/
theorem alike_play {w : World} (hw : World.Sound w) (D : Domain) (settings : Settings)
    (draw : Draw σ) (s : σ) :
    Alike (SameStory D (D.connectivityOf hw.picture) (w.after (draw.actionAt s)))
      (play D { settings with mode := .cell } draw w s)
      (play D { settings with mode := .numeric } draw w s) := by
  rw [play, play, Agent.start_eq D .cell hw, Agent.start_eq D .numeric hw, ok_bind, ok_bind]
  refine ((Play.sideBySide_start D _ w draw s settings).turns hw w.remaining).bind ?_
  rintro q q' ⟨m, hworld, hsource, hledger, hmirrors, hturn⟩
  exact .ok ⟨hworld.1.trans hworld.2.symm, hledger, hmirrors.turn, hmirrors.states,
    hmirrors.actions⟩

/-- **The two notations say the same.** States, actions and whole episodes in the one notation
correspond to those in the other; what cannot be said in the one cannot be said in the other, and
where the avatar looks along a finite vector, and the level has indices that a machine can hold,
everything can be said. Only an action from or to a cell whose numbers cannot be written is nothing
for the notation with cells. Whether an action was a turn is for the caller to say here. -/
theorem notations_agree (D : Domain) :
    (∀ (g : Connectivity) (s : Snapshot) (o : Orientation) (picked : String → Int),
      ∃ cell numeric, D.groundState .cell g s o picked = .ok cell ∧
        D.groundState .numeric g s o picked = .ok numeric ∧ D.SameState g s cell numeric) ∧
    (∀ (turned : Bool) (a : Action) (source : Cell) (before : Orientation)
        (picked : Option String), (turned = false → a.CellsWritable source before) →
      Alike (D.SameGrounded turned)
        (D.tellAction D.objectAnywhere .cell turned a source before picked)
        (D.tellAction D.objectAnywhere .numeric turned a source before picked) ∧
      (before.IsFinite →
        ∃ cell, D.tellAction D.objectAnywhere .cell turned a source before picked = .ok cell)) ∧
    (∀ (a : Action) (source target : Cell) (before : Orientation) (picked : Option String),
      a.target source before = .ok target → source.isWritable = false ∨ target.isWritable = false →
      D.tellAction D.objectAnywhere .cell false a source before picked = .error .longInteger) ∧
    ∀ (game : Game) (p : Precision) (settings : Settings) (draw : Draw σ) (source : σ), ∃ g,
      Agent.start D .cell (World.ofGame game p) = .ok ⟨D, .cell, g⟩ ∧
      Agent.start D .numeric (World.ofGame game p) = .ok ⟨D, .numeric, g⟩ ∧
      Alike (SameStory D g ((World.ofGame game p).after (draw.actionAt source)))
        (play D { settings with mode := .cell } draw (World.ofGame game p) source)
        (play D { settings with mode := .numeric } draw (World.ofGame game p) source) ∧
      ((World.ofGame game p).Measurable → ∃ cell,
        play D { settings with mode := .cell } draw (World.ofGame game p) source = .ok cell) := by
  refine ⟨fun g s o picked => ?_, fun turned a source before picked hwritable => ?_,
    fun a source target before picked htarget hlong => ?_, fun game p settings draw source => ?_⟩
  · exact ⟨_, _, D.groundState_eq .cell g s o picked, D.groundState_eq .numeric g s o picked,
      D.sameState_stateFacts g s o picked⟩
  · refine ⟨D.alike_tellAction_objectAnywhere picked hwritable, fun hbefore => ?_⟩
    obtain ⟨target, htarget⟩ := a.target_ok source hbefore
    obtain ⟨warning?, haction⟩ := D.tellAction_eq .cell turned picked htarget
    refine ⟨_, (Domain.tellAction_of_isWritable htarget fun hturned c hc => ?_).trans haction⟩
    obtain ⟨hsource, htarget⟩ := hwritable hturned target htarget
    rcases Domain.eq_of_mem_cellsNamed hc with rfl | rfl
    · exact hsource
    · exact htarget
  · rcases hlong with hlong | hlong
    · exact Domain.tellAction_of_not_isWritable htarget (D.mem_cellsNamed_cell (.inl rfl)) hlong
    · exact Domain.tellAction_of_not_isWritable htarget (D.mem_cellsNamed_cell (.inr rfl)) hlong
  · have hw := World.sound_ofGame game p
    refine ⟨D.connectivityOf hw.picture, Agent.start_eq D .cell hw, Agent.start_eq D .numeric hw,
      alike_play hw D settings draw source, fun hm => ?_⟩
    obtain ⟨n, atoms, hcourse⟩ := exists_course D .cell hw hm rfl draw source
    exact ⟨_, hcourse.play_eq rfl⟩

/-- The corridor is played alike in both notations. -/
theorem notations_agree_corridor :
    (World.ofGame corridor .binary64).Measurable ∧ (Orientation.ofDirection .right).IsFinite ∧
      (∃ grounded, gemDomain.groundActionAnywhere .cell .use ⟨0, 0⟩ (.ofDirection .right)
        (.ofDirection .right) none = .ok grounded) ∧
      ∃ cell numeric,
        play gemDomain { Settings.standard with mode := .cell } rightward
          (World.ofGame corridor .binary64) () = .ok cell ∧
        play gemDomain { Settings.standard with mode := .numeric } rightward
          (World.ofGame corridor .binary64) () = .ok numeric ∧
        cell.turns = numeric.turns ∧ cell.ledger = numeric.ledger := by
  have hm : (World.ofGame corridor .binary64).Measurable := fun _ => by decide
  have hfinite : (Orientation.ofDirection .right).IsFinite := ⟨⟨1, rfl⟩, ⟨0, rfl⟩⟩
  have hwritable : Action.use.CellsWritable ⟨0, 0⟩ (.ofDirection .right) := by
    intro target htarget
    rw [Action.target, Cell.along_ofDirection] at htarget
    obtain rfl := Except.ok.inj htarget
    decide +kernel
  obtain ⟨-, hactions, -, hepisodes⟩ := notations_agree gemDomain
  obtain ⟨-, hgrounded⟩ := hactions false .use ⟨0, 0⟩ (.ofDirection .right) none fun _ => hwritable
  obtain ⟨g, -, -, halike, hplay⟩ := hepisodes corridor .binary64 .standard rightward ()
  obtain ⟨cell, hcell⟩ := hplay hm
  obtain ⟨numeric, hnumeric, hstory⟩ := halike.exists_of_ok hcell
  exact ⟨hm, hfinite, hgrounded hfinite, cell, numeric, hcell, hnumeric, hstory.turns_eq,
    hstory.ledger_eq⟩

/-- The step out of the last column that can be written can be told in numbers, and not with
cells. -/
theorem groundActionAnywhere_gem_not_alike :
    (∃ grounded, gemDomain.groundActionAnywhere .numeric (.move .right) ⟨Text.writableBound - 1, 0⟩
      (.ofDirection .right) (.ofDirection .right) none = .ok grounded) ∧
    gemDomain.groundActionAnywhere .cell (.move .right) ⟨Text.writableBound - 1, 0⟩
      (.ofDirection .right) (.ofDirection .right) none = .error .longInteger := by
  have hsame : (Orientation.ofDirection .right).isSame (.ofDirection .right) = true := by decide
  have htarget : (Action.move .right).target ⟨Text.writableBound - 1, 0⟩ (.ofDirection .right) =
      .ok (Cell.neighbour ⟨Text.writableBound - 1, 0⟩ .right) := rfl
  constructor
  · obtain ⟨warning?, haction⟩ := gemDomain.tellAction_eq .numeric false none htarget
    rw [Domain.groundActionAnywhere, hsame]
    exact ⟨_, (Domain.tellAction_of_isWritable htarget fun _ c hc =>
      (List.not_mem_nil hc).elim).trans haction⟩
  · rw [Domain.groundActionAnywhere, hsame]
    exact Domain.tellAction_of_not_isWritable htarget (gemDomain.mem_cellsNamed_cell (.inr rfl))
      Cell.not_isWritable_neighbour_right

end Episode

end PlayTrace
