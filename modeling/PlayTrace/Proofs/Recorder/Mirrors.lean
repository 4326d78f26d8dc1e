import Mathlib.Data.List.Forall2
import PlayTrace.Proofs.Recorder.Probe
import PlayTrace.Proofs.Success

/-!
# Two recordings side by side

A recorder keeps states and actions without looking into them. What it does depends on how many
turns it has recorded, whether its last state is provisional, and which candidates are final. So two
recorders that are told of the same turns, in words that correspond, keep traces that correspond
entry by entry: the same labels, the same number of entries, the same end.

What it means that words correspond is left open: any relation between the entries of two traces
will do.

## Main definitions

* `Recorder.Mirrors` — two recorders that stand side by side

## Main results

* `Mirrors.beginTurn`, `Mirrors.record`, `Mirrors.probe` — the steps of a turn
-/

namespace PlayTrace

namespace Recorder

/-- Two recorders stand side by side: their traces correspond entry by entry, and in all that
decides what they do next they are the same. -/
structure Mirrors (R : Int × List Fact → Int × List Fact → Prop)
    (S : Int × Atom → Int × Atom → Prop) (r r' : Recorder) : Prop where
  lookahead : r.lookahead = r'.lookahead
  phase : r.phase = r'.phase
  turn : r.turn = r'.turn
  states : List.Forall₂ R r.trace.states r'.trace.states
  actions : List.Forall₂ S r.trace.actions r'.trace.actions

variable {R : Int × List Fact → Int × List Fact → Prop} {S : Int × Atom → Int × Atom → Prop}
  {r r' : Recorder} {α : Type}

theorem Mirrors.start (R : Int × List Fact → Int × List Fact → Prop)
    (S : Int × Atom → Int × Atom → Prop) (n : Nat) (h : 0 < n) :
    Mirrors R S (.start n h) (.start n h) :=
  ⟨rfl, rfl, rfl, .nil, .nil⟩

@[simp] theorem turn_beginTurn (r : Recorder) : r.beginTurn.turn = r.turn := by
  cases h : r.phase <;> simp [Recorder.beginTurn, h]

/-- Both drop a provisional state, or neither does. -/
theorem Mirrors.beginTurn (h : Mirrors R S r r') : Mirrors R S r.beginTurn r'.beginTurn := by
  unfold Recorder.beginTurn
  rw [← h.phase]
  cases r.phase with
  | recording => exact h
  | pendingTerminal =>
    refine ⟨h.lookahead, rfl, h.turn, ?_, h.actions⟩
    simp only [List.dropLast_eq_take, h.states.length_eq]
    exact List.forall₂_take _ h.states

theorem Mirrors.record (h : Mirrors R S r r') {state state' : List Fact} {action action' : Atom}
    (hstate : R (r.turn, state) (r.turn, state')) (haction : S (r.turn, action) (r.turn, action')) :
    Mirrors R S (r.record state action) (r'.record state' action') where
  lookahead := h.lookahead
  phase := h.phase
  turn := congrArg (· + 1) h.turn
  states := by
    rw [Recorder.record, Recorder.record, ← h.turn]
    exact List.rel_append h.states (.cons hstate .nil)
  actions := by
    rw [Recorder.record, Recorder.record, ← h.turn]
    exact List.rel_append h.actions (.cons haction .nil)

theorem Mirrors.await (h : Mirrors R S r r') {state state' : List Fact}
    (hstate : R (r.turn, state) (r.turn, state')) :
    Mirrors R S (r.await state) (r'.await state') where
  lookahead := h.lookahead
  phase := rfl
  turn := h.turn
  states := by
    rw [Recorder.await, Recorder.await, ← h.turn]
    exact List.rel_append h.states (.cons hstate .nil)
  actions := h.actions

/-- Both find the same candidate final, or neither finds one. -/
theorem Mirrors.probe (h : Mirrors R S r r') (candidate : Nat → α) (isFinal : α → Bool)
    {ground ground' : α → Except Fault (List Fact)}
    (hground : ∀ i, Alike (fun state state' => R (r.turn, state) (r.turn, state'))
      (ground (candidate i)) (ground' (candidate i))) :
    Alike (fun p p' => Mirrors R S p.recorder p'.recorder ∧ p.recorder.turn = r.turn)
      (r.probe candidate isFinal ground) (r'.probe candidate isFinal ground') := by
  rw [probe_eq_match, probe_eq_match, ← h.lookahead]
  cases firstFinal? (fun i => isFinal (candidate i)) r.lookahead with
  | none => exact .ok ⟨h, rfl⟩
  | some j => exact (hground j).map fun _ _ hstate => ⟨h.await hstate, rfl⟩

end Recorder

end PlayTrace
