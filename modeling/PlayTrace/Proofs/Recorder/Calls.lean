import PlayTrace.Proofs.Recorder.Probe

/-!
# What a probe asks for

A probe asks its surroundings for two things: a fresh candidate of the model, and the facts of a
candidate that is final. `Recorder.probe` is given the candidates as a sequence, and counts them as
it goes; it cannot tell whether a candidate was asked for that it did not look at. Here the same
loop is written with the two requests as steps of a monad, one attempt after the other, so that
asking is an effect. Run in a monad that notes every request, it does what `Recorder.probe` does,
and the notes are just what the outcome needs: the candidates before the first final one, and the
facts of that one.

## Main definitions

* `Recorder.attempts`, `Recorder.probeBy` — the loop, in any monad
* `Recorder.noted` — the loop, and what it has asked for

## Main results

* `Recorder.after_attempts` — the attempts that remain, and what they ask for
* `Recorder.probe_eq_noted` — the loop is the probe
* `Recorder.probe_asks` — what a probe does and what it asks for
-/

namespace PlayTrace

namespace Recorder

/-- A request of a probe. -/
inductive Request (α : Type) where
  /-- for a fresh candidate of the model -/
  | fresh
  /-- for the facts of a candidate -/
  | ground (c : α)
deriving DecidableEq

/-- Whether a fresh candidate is asked for. -/
def Request.isFresh {α : Type} : Request α → Bool
  | fresh => true
  | ground _ => false

section Loop

variable {α : Type} {m : Type → Type} [Monad m]

/-- The attempts of a probe that remain, the next one with a candidate at hand. If it is final its
facts are asked for; otherwise a fresh one is, as long as there is an attempt left for it. -/
def attempts (isFinal : α → Bool) (fresh : m α) (ground : α → m (List Fact)) :
    (left : Nat) → α → m (Option (List Fact))
  | 0, _ => return none
  | left + 1, c =>
    if isFinal c then do return some (← ground c)
    else if left = 0 then return none
    else do attempts isFinal fresh ground left (← fresh)

/-- A probe whose requests are steps of a monad: the recorder afterwards, and whether a final
candidate was found. -/
def probeBy (r : Recorder) (post : α) (isFinal : α → Bool) (fresh : m α)
    (ground : α → m (List Fact)) : m (Recorder × Bool) := do
  match ← attempts isFinal fresh ground r.lookahead post with
  | some state => return (r.await state, true)
  | none => return (r, false)

end Loop

variable {α β : Type}

/-! ### Taking notes -/

/-- A computation that may fail, and notes its requests. -/
abbrev Noting (α β : Type) := ExceptT Fault (StateM (List (Request α))) β

/-- The outcome of a computation that has noted some requests before. -/
def Noting.after (x : Noting α β) (before : List (Request α)) :
    Except Fault β × List (Request α) := x before

theorem Noting.after_bind {γ : Type} (x : Noting α β) (f : β → Noting α γ)
    (before : List (Request α)) :
    Noting.after (x >>= f) before =
      match x.after before with
      | (.ok b, notes) => (f b).after notes
      | (.error e, notes) => (.error e, notes) := by
  unfold Noting.after
  change (match x before with
    | (a, notes) => ExceptT.bindCont f a notes) = _
  rcases x before with ⟨_ | _, _⟩ <;> rfl

/-- Asks for a fresh candidate, which is the next of a sequence. -/
def noteFresh (candidate : Nat → α) : Noting α α := fun before =>
  (.ok (candidate (before.countP Request.isFresh + 1)), before ++ [.fresh])

/-- Asks for the facts of a candidate. -/
def noteGround (ground : α → Except Fault (List Fact)) (c : α) : Noting α (List Fact) := fun before =>
  (ground c, before ++ [.ground c])

@[simp] theorem countP_isFresh_replicate (i : Nat) :
    (List.replicate i (.fresh : Request α)).countP Request.isFresh = i := by
  simp [List.countP_replicate, Request.isFresh]

theorem after_noteFresh (candidate : Nat → α) (i : Nat) :
    (noteFresh candidate).after (.replicate i .fresh) =
      (.ok (candidate (i + 1)), .replicate (i + 1) .fresh) := by
  rw [Noting.after, noteFresh, countP_isFresh_replicate, List.replicate_succ']

theorem after_noteGround (ground : α → Except Fault (List Fact)) (c : α)
    (before : List (Request α)) :
    (noteGround ground c).after before = (ground c, before ++ [.ground c]) := rfl

/-- A probe with its requests. -/
def noted (r : Recorder) (candidate : Nat → α) (isFinal : α → Bool)
    (ground : α → Except Fault (List Fact)) :
    Except Fault (Recorder × Bool) × List (Request α) :=
  (r.probeBy (candidate 0) isFinal (noteFresh candidate) (noteGround ground)).after []

/-! ### The requests of a probe -/

/-- When a candidate is up, just the fresh ones up to it were asked for. The attempts that remain
ask for those up to the first final one and for its facts, or for all that there are attempts
for. -/
theorem after_attempts (candidate : Nat → α) (isFinal : α → Bool)
    (ground : α → Except Fault (List Fact)) (left i : Nat) :
    (attempts isFinal (noteFresh candidate) (noteGround ground) (left + 1) (candidate i)).after
        (.replicate i .fresh) =
      match (List.range' i (left + 1)).find? fun j => isFinal (candidate j) with
      | some j => ((ground (candidate j)).map some, .replicate j .fresh ++ [.ground (candidate j)])
      | none => (.ok none, .replicate (i + left) .fresh) := by
  induction left generalizing i with
  | zero =>
    rw [attempts, List.range'_one, List.find?_singleton]
    cases isFinal (candidate i) with
    | true =>
      simp only [if_true, Noting.after_bind, after_noteGround]
      cases ground (candidate i) <;> rfl
    | false => rfl
  | succ left ih =>
    rw [attempts, List.range'_succ, List.find?_cons]
    cases isFinal (candidate i) with
    | true =>
      simp only [if_true, Noting.after_bind, after_noteGround]
      cases ground (candidate i) <;> rfl
    | false =>
      have hnext := ih (i + 1)
      rw [Nat.add_right_comm] at hnext
      simp only [Bool.false_eq_true, if_false, Nat.add_eq_zero_iff, Nat.one_ne_zero, and_false,
        Noting.after_bind, after_noteFresh]
      exact hnext

/-- The requests of a probe, and what comes of them. -/
theorem noted_eq (r : Recorder) (candidate : Nat → α) (isFinal : α → Bool)
    (ground : α → Except Fault (List Fact)) :
    r.noted candidate isFinal ground =
      match firstFinal? (fun i => isFinal (candidate i)) r.lookahead with
      | some j => ((ground (candidate j)).map fun state => (r.await state, true),
          .replicate j .fresh ++ [.ground (candidate j)])
      | none => (.ok (r, false), .replicate (r.lookahead - 1) .fresh) := by
  obtain ⟨n, hn⟩ : ∃ n, r.lookahead = n + 1 := ⟨r.lookahead - 1, by have := r.lookahead_pos; omega⟩
  have hattempts := after_attempts candidate isFinal ground n 0
  rw [noted, probeBy, hn, Noting.after_bind]
  rw [List.replicate_zero, ← List.range_eq_range', Nat.zero_add] at hattempts
  rw [hattempts, firstFinal?, Nat.add_sub_cancel]
  cases (List.range (n + 1)).find? fun j => isFinal (candidate j) with
  | none => rfl
  | some j =>
    simp only
    cases ground (candidate j) <;> rfl

/-- **The loop is the probe.** What the probe reports is the number of fresh candidates that were
asked for. -/
theorem probe_eq_noted (r : Recorder) (candidate : Nat → α) (isFinal : α → Bool)
    (ground : α → Except Fault (List Fact)) :
    r.probe candidate isFinal ground =
      (r.noted candidate isFinal ground).1.map fun p =>
        ⟨p.1, p.2, (r.noted candidate isFinal ground).2.countP Request.isFresh⟩ := by
  rw [probe_eq_match, noted_eq]
  cases firstFinal? (fun i => isFinal (candidate i)) r.lookahead with
  | none => simp [Except.map]
  | some j =>
    have hcount : (.replicate j .fresh ++ [.ground (candidate j)] : List (Request α)).countP
        Request.isFresh = j := by
      simp [List.countP_append, Request.isFresh]
    simp only [hcount]
    cases ground (candidate j) <;> rfl

/-- **What a probe does and what it asks for.** It is the loop whose requests are noted. If `j` is
the number of the first final candidate, it asks for the `j` fresh ones up to that, then for the
facts of that one, and for nothing else; the recorder gets these facts as its provisional last state,
and is the same in all else. If no candidate is final that may be looked at, it asks for all fresh
ones but for no facts, and the recorder is left as it was. -/
theorem probe_asks (r : Recorder) (candidate : Nat → α) (isFinal : α → Bool)
    (ground : α → Except Fault (List Fact)) :
    (r.probe candidate isFinal ground =
      (r.noted candidate isFinal ground).1.map fun p =>
        ⟨p.1, p.2, (r.noted candidate isFinal ground).2.countP Request.isFresh⟩) ∧
    (∀ j < r.lookahead, isFinal (candidate j) = true → (∀ i < j, isFinal (candidate i) = false) →
      (r.noted candidate isFinal ground).2 = .replicate j .fresh ++ [.ground (candidate j)] ∧
      (∀ e, ground (candidate j) = .error e → r.probe candidate isFinal ground = .error e) ∧
      ∀ state, ground (candidate j) = .ok state →
        r.probe candidate isFinal ground =
          .ok ⟨{ r with
              phase := .pendingTerminal
              trace := ⟨r.trace.states ++ [((r.turn : Int), state)], r.trace.actions⟩ },
            true, j⟩) ∧
    ((∀ i < r.lookahead, isFinal (candidate i) = false) →
      (r.noted candidate isFinal ground).2 = .replicate (r.lookahead - 1) .fresh ∧
      r.probe candidate isFinal ground = .ok ⟨r, false, r.lookahead - 1⟩) := by
  refine ⟨r.probe_eq_noted candidate isFinal ground, fun j hj hfinal hfirst => ?_, fun hnone => ?_⟩
  · have hsome : firstFinal? (fun i => isFinal (candidate i)) r.lookahead = some j :=
      firstFinal?_eq_some_iff.2 ⟨hj, hfinal, hfirst⟩
    rw [noted_eq, probe_eq_match, hsome]
    refine ⟨rfl, fun e he => ?_, fun state hstate => ?_⟩
    · simp only [he, Except.map]
    · simp only [hstate, Except.map]
      rfl
  · have hnone' : firstFinal? (fun i => isFinal (candidate i)) r.lookahead = none :=
      firstFinal?_eq_none_iff.2 hnone
    rw [noted_eq, probe_eq_match, hnone']
    exact ⟨rfl, rfl⟩

/-- A game that the model takes for over from the third look on. A probe of three candidates comes
to the last of them, and a probe of two gives up after one fresh candidate. -/
theorem probe_asks_overtime :
    ((∀ i < 2, decide (2 ≤ i) = false) ∧ decide (2 ≤ 2) = true) ∧
      ((start 3 (by decide)).noted id (2 ≤ ·) fun _ => .ok []).2 = [.fresh, .fresh, .ground 2] ∧
      (start 3 (by decide)).probe id (2 ≤ ·) (fun _ => .ok []) =
        .ok ⟨⟨3, .pendingTerminal, ⟨[(0, [])], []⟩, 0, by decide⟩, true, 2⟩ ∧
      ((start 2 (by decide)).noted id (2 ≤ ·) fun _ => .ok []).2 = [.fresh] ∧
      (start 2 (by decide)).probe id (2 ≤ ·) (fun _ => .ok []) =
        .ok ⟨start 2 (by decide), false, 1⟩ := by
  have hearly : ∀ i < 2, decide (2 ≤ i) = false := by decide
  have hlate : decide (2 ≤ 2) = true := by decide
  obtain ⟨-, hfound, -⟩ := probe_asks (start 3 (by decide)) id (2 ≤ ·) fun _ => .ok []
  obtain ⟨-, -, hmissed⟩ := probe_asks (start 2 (by decide)) id (2 ≤ ·) fun _ => .ok []
  obtain ⟨hrequests, -, hstate⟩ := hfound 2 (by decide) hlate hearly
  obtain ⟨hrequests', hprobe⟩ := hmissed hearly
  exact ⟨⟨hearly, hlate⟩, hrequests, hstate [] rfl, hrequests', hprobe⟩

end Recorder

end PlayTrace
