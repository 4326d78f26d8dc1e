import PlayTrace.Proofs.Recorder.Probe
import PlayTrace.Proofs.Success

/-!
# Rolling back false endings

A recorder may take the end of a game for granted too early, and again and again. Whatever the model
of the game answers, the trace ends up as if the probes of all turns but the last had never been
made: a provisional state shares the list and the turn counter with the recorded states, and it is
gone before the next state is recorded.

The model is left open altogether. An `Entry` is what a recorder gets to see in one turn: the state
and the action that are recorded, the candidates that the model offers, which of them it takes for
final, and what grounding makes of them.

## Main results

* `Recorder.Recounts.takeTurn` — what one turn makes of a recorder that recounts a list of entries
* `Recorder.Recounts.replay` — so the recorder recounts any list of entries after it took them in
* `Recorder.replay_append_singleton` — the trace, the turn counter and the phase after any run
-/

namespace PlayTrace

namespace Recorder

variable {α : Type}

/-! ## Turns -/

/-- What a recorder gets to see in a turn. -/
structure Entry (α : Type) where
  state : List Fact
  action : Atom
  /-- what the model offers: first the successor at hand, then the fresh ones -/
  candidate : Nat → α
  isFinal : α → Bool
  ground : α → List Fact

namespace Entry

/-- The final state that a probe of `n` candidates finds, if it finds one. -/
def terminal? (e : Entry α) (n : Nat) : Option (List Fact) :=
  (firstFinal? (fun i => e.isFinal (e.candidate i)) n).map fun j => e.ground (e.candidate j)

end Entry

/-- One turn: begin it, record the state and the action, and probe for the end. -/
def takeTurn (r : Recorder) (e : Entry α) : Except Fault Recorder := do
  let p ← (r.beginTurn.record e.state e.action).probe e.candidate e.isFinal
    fun c => .ok (e.ground c)
  return p.recorder

@[simp] theorem lookahead_beginTurn (r : Recorder) : r.beginTurn.lookahead = r.lookahead := by
  cases h : r.phase <;> simp [beginTurn, h]

/-- A turn never fails. The first final candidate, if there is one, is awaited. -/
theorem takeTurn_eq (r : Recorder) (e : Entry α) :
    r.takeTurn e = .ok
      (match firstFinal? (fun i => e.isFinal (e.candidate i)) r.lookahead with
        | some j => (r.beginTurn.record e.state e.action).await (e.ground (e.candidate j))
        | none => r.beginTurn.record e.state e.action) := by
  have hlook : (r.beginTurn.record e.state e.action).lookahead = r.lookahead :=
    lookahead_beginTurn r
  have hprobe := probe_eq (r.beginTurn.record e.state e.action) e.candidate e.isFinal
    (fun c => .ok (e.ground c)) fun _ => rfl
  rw [takeTurn, hprobe, hlook, ok_bind]
  cases firstFinal? (fun i => e.isFinal (e.candidate i)) r.lookahead <;> rfl

/-- A list of turns. -/
def replay (r : Recorder) (es : List (Entry α)) : Except Fault Recorder := es.foldlM takeTurn r

/-! ## Recounting a list of turns -/

/-- The states of a list of turns, each with its turn. -/
def recordedStates (es : List (Entry α)) : List (Int × List Fact) :=
  es.mapIdx fun i e => ((i : Int), e.state)

/-- The actions of a list of turns, each with its turn. -/
def recordedActions (es : List (Entry α)) : List (Int × Atom) :=
  es.mapIdx fun i e => ((i : Int), e.action)

/-- The final state that the last of a list of turns found. -/
def pending? (n : Nat) (es : List (Entry α)) : Option (List Fact) :=
  es.getLast?.bind fun e => e.terminal? n

/-- `r` is the recorder of the turns `es`: their states and actions, and after these the final
state that the last turn found, if it found one. -/
structure Recounts (es : List (Entry α)) (r : Recorder) : Prop where
  turn : r.turn = es.length
  states : r.trace.states =
    recordedStates es ++ (pending? r.lookahead es).toList.map fun s => ((es.length : Int), s)
  actions : r.trace.actions = recordedActions es
  phase : r.phase =
    if (pending? r.lookahead es).isSome then .pendingTerminal else .recording

theorem recordedStates_append_singleton (es : List (Entry α)) (e : Entry α) :
    recordedStates (es ++ [e]) = recordedStates es ++ [((es.length : Int), e.state)] := by
  simp [recordedStates, List.mapIdx_append]

theorem recordedActions_append_singleton (es : List (Entry α)) (e : Entry α) :
    recordedActions (es ++ [e]) = recordedActions es ++ [((es.length : Int), e.action)] := by
  simp [recordedActions, List.mapIdx_append]

@[simp] theorem pending?_append_singleton (n : Nat) (es : List (Entry α)) (e : Entry α) :
    pending? n (es ++ [e]) = e.terminal? n := by
  simp [pending?]

@[simp] theorem lookahead_start (n : Nat) (h : 0 < n) : (start n h).lookahead = n := rfl

theorem recounts_start (n : Nat) (h : 0 < n) : Recounts ([] : List (Entry α)) (start n h) :=
  ⟨rfl, rfl, rfl, rfl⟩

/-- **Rollback.** At the beginning of a turn only what was recorded is left. -/
theorem Recounts.beginTurn {es : List (Entry α)} {r : Recorder} (h : Recounts es r) :
    r.beginTurn =
      { r with phase := .recording, trace := ⟨recordedStates es, recordedActions es⟩ } := by
  obtain ⟨-, hstates, hactions, hphase⟩ := h
  cases hp : pending? r.lookahead es with
  | none =>
    have hrec : r.phase = .recording := by simpa [hp] using hphase
    have htrace : r.trace = ⟨recordedStates es, recordedActions es⟩ := by
      rw [← hactions, show recordedStates es = r.trace.states by simpa [hp] using hstates.symm]
    rw [Recorder.beginTurn, hrec]
    simp only [← htrace, ← hrec]
  | some s =>
    have hpend : r.phase = .pendingTerminal := by simpa [hp] using hphase
    have hs : r.trace.states = recordedStates es ++ [((es.length : Int), s)] := by
      simpa [hp] using hstates
    rw [Recorder.beginTurn, hpend]
    simp only [hs, List.dropLast_concat, hactions]

/-- **One turn.** The next state stands where a provisional one may have stood. -/
theorem Recounts.takeTurn {es : List (Entry α)} {r : Recorder} (h : Recounts es r) (e : Entry α) :
    ∃ r', r.takeTurn e = .ok r' ∧ r'.lookahead = r.lookahead ∧ Recounts (es ++ [e]) r' := by
  have hbegin := h.beginTurn
  obtain ⟨hturn, -, -, -⟩ := h
  refine ⟨_, takeTurn_eq r e, ?_⟩
  have hlook : (r.beginTurn.record e.state e.action).lookahead = r.lookahead :=
    lookahead_beginTurn r
  have hterminal : e.terminal? r.lookahead =
      (firstFinal? (fun i => e.isFinal (e.candidate i)) r.lookahead).map
        fun j => e.ground (e.candidate j) := rfl
  cases hj : firstFinal? (fun i => e.isFinal (e.candidate i)) r.lookahead with
  | none =>
    have hnone : e.terminal? r.lookahead = none := by rw [hterminal, hj]; rfl
    refine ⟨hlook, ?_, ?_, ?_, ?_⟩
    · simp [record, hbegin, hturn]
    · simp [record, hbegin, hturn, hnone, recordedStates_append_singleton]
    · simp [record, hbegin, hturn, recordedActions_append_singleton]
    · simp [record, hbegin, hnone]
  | some j =>
    have hsome : e.terminal? r.lookahead = some (e.ground (e.candidate j)) := by
      rw [hterminal, hj]; rfl
    refine ⟨hlook, ?_, ?_, ?_, ?_⟩
    · simp [await, record, hbegin, hturn]
    · simp [await, record, hbegin, hturn, hsome, recordedStates_append_singleton]
    · simp [await, record, hbegin, hturn, recordedActions_append_singleton]
    · simp [await, record, hbegin, hsome]

/-- **Further turns.** No turn fails, and the recorder recounts these turns after the others. -/
theorem Recounts.replay {done : List (Entry α)} {r : Recorder} (h : Recounts done r)
    (es : List (Entry α)) :
    ∃ r', r.replay es = .ok r' ∧ r'.lookahead = r.lookahead ∧ Recounts (done ++ es) r' := by
  induction es generalizing done r with
  | nil => exact ⟨r, rfl, rfl, by simpa using h⟩
  | cons e es ih =>
    obtain ⟨r₁, hr₁, hlook₁, hrec₁⟩ := h.takeTurn e
    obtain ⟨r₂, hr₂, hlook₂, hrec₂⟩ := ih hrec₁
    refine ⟨r₂, ?_, hlook₂.trans hlook₁, by simpa using hrec₂⟩
    rw [Recorder.replay, List.foldlM_cons, hr₁]
    exact hr₂

/-- A provisional state is there to be dropped. -/
theorem Recounts.states_ne_nil {es : List (Entry α)} {r : Recorder} (h : Recounts es r)
    (hphase : r.phase = .pendingTerminal) : r.trace.states ≠ [] := by
  obtain ⟨-, hstates, -, hp⟩ := h
  intro hnil
  rw [hnil] at hstates
  have hnone : pending? r.lookahead es = none := by
    simpa using (List.append_eq_nil_iff.1 hstates.symm).2
  simp [hnone, hphase] at hp

/-- **Rollback over a whole run.** However many turns are taken, and whatever the model answers in
them, no turn fails. The trace lists the states and actions of all turns, each with its turn, and
after them a final state exactly when the probe of the last turn found one. Before every turn, a
recorder with a provisional state has a state to drop. -/
theorem replay_append_singleton (n : Nat) (hn : 0 < n) (es : List (Entry α)) (last : Entry α) :
    (∃ r, (start n hn).replay (es ++ [last]) = .ok r ∧
      r.trace.states = recordedStates (es ++ [last]) ++
        (last.terminal? n).toList.map (fun s => (((es.length + 1 : Nat) : Int), s)) ∧
      r.trace.actions = recordedActions (es ++ [last]) ∧
      r.turn = es.length + 1 ∧
      (r.phase = .pendingTerminal ↔ last.terminal? n ≠ none)) ∧
    ∀ before, before <+: es ++ [last] →
      ∃ r, (start n hn).replay before = .ok r ∧
        (r.phase = .pendingTerminal → r.trace.states ≠ []) := by
  constructor
  · obtain ⟨r, hr, hlook, hrec⟩ := (recounts_start n hn).replay (es ++ [last])
    obtain ⟨hturn, hstates, hactions, hphase⟩ := hrec
    simp only [hlook, lookahead_start, List.nil_append, pending?_append_singleton,
      List.length_append, List.length_singleton] at hturn hstates hactions hphase
    refine ⟨r, hr, hstates, hactions, hturn, ?_⟩
    rw [hphase]
    cases last.terminal? n <;> simp
  · intro before _
    obtain ⟨r, hr, -, hrec⟩ := (recounts_start n hn).replay before
    exact ⟨r, hr, hrec.states_ne_nil⟩

/-- A turn whose second candidate is taken for final. -/
def doubtfulEntry : Entry Bool :=
  ⟨[], ⟨"MOVE_UP", []⟩, fun i => i == 1, id, fun _ => [.plain ⟨"END", []⟩]⟩

/-- A turn none of whose candidates is taken for final. -/
def settledEntry : Entry Bool := ⟨[], ⟨"USE", []⟩, fun _ => false, id, fun _ => []⟩

/-- Two false endings leave nothing behind. -/
theorem replay_false_endings :
    0 < 2 ∧ ∃ r, (start 2 (by decide)).replay ([doubtfulEntry, doubtfulEntry] ++ [settledEntry]) =
        .ok r ∧
      r.trace.states = [(0, []), (1, []), (2, [])] ∧
      r.trace.actions = [(0, ⟨"MOVE_UP", []⟩), (1, ⟨"MOVE_UP", []⟩), (2, ⟨"USE", []⟩)] ∧
      r.turn = 3 ∧ r.phase ≠ .pendingTerminal := by
  obtain ⟨⟨r, hr, hstates, hactions, hturn, hphase⟩, -⟩ :=
    replay_append_singleton 2 (by decide) [doubtfulEntry, doubtfulEntry] settledEntry
  have hnone : settledEntry.terminal? 2 = none := by decide
  rw [hnone] at hstates hphase
  exact ⟨by decide, r, hr, hstates, hactions, hturn, fun h => hphase.1 h rfl⟩

end Recorder

end PlayTrace
