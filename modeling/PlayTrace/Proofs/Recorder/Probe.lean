import PlayTrace.Trace.Recorder

/-!
# What a probe finds

The search for a final state tests one candidate while it prepares the next, under a bound of its
own. Here it is compared with the plain question it answers: which is the first final candidate
among those that may be looked at?

`Recorder.firstFinal?` asks that question, and `Recorder.probe_eq` says that a probe is nothing but
its answer: a final candidate is grounded and its state awaits the next turn; without one the
recorder stays as it was.

## Main results

* `Recorder.firstFinal?_eq_some_iff`, `firstFinal?_eq_none_iff` — the first final candidate
* `Recorder.search_succ` — the search, as a search for the first final candidate
* `Recorder.probe_eq` — the probe, when grounding the candidates succeeds
-/

namespace PlayTrace

namespace Recorder

variable {α : Type} {isFinal : Nat → Bool}

/-- The first final candidate among the first `n`. -/
def firstFinal? (isFinal : Nat → Bool) (n : Nat) : Option Nat := (List.range n).find? isFinal

/-- The first final candidate is the one with the least number. -/
theorem firstFinal?_eq_some_iff {n j : Nat} :
    firstFinal? isFinal n = some j ↔
      j < n ∧ isFinal j = true ∧ ∀ i < j, isFinal i = false := by
  rw [firstFinal?, List.find?_range_eq_some, and_left_comm]
  simp only [List.mem_range, Bool.not_eq_true']

theorem firstFinal?_eq_none_iff {n : Nat} :
    firstFinal? isFinal n = none ↔ ∀ i < n, isFinal i = false := by
  simp [firstFinal?]

/-- The search answers with the first final candidate; without one it ends at the last candidate
that it may look at. -/
theorem search_succ (isFinal : Nat → Bool) (n i : Nat) :
    search isFinal (n + 1) i =
      match (List.range' i (n + 1)).find? isFinal with
      | some j => (true, j)
      | none => (false, i + n) := by
  induction n generalizing i with
  | zero => cases h : isFinal i <;> simp [search, List.range', h]
  | succ n ih =>
    rw [List.range'_succ, List.find?_cons]
    cases h : isFinal i with
    | true => simp [search, h]
    | false =>
      rw [search, h, ih (i + 1)]
      simp only [Bool.false_eq_true, if_false]
      cases (List.range' (i + 1) (n + 1)).find? isFinal with
      | some j => rfl
      | none => simp only [Prod.mk.injEq, true_and]; omega

/-- The search of a recorder, which looks at one candidate at least. -/
theorem search_lookahead (r : Recorder) (isFinal : Nat → Bool) :
    search isFinal r.lookahead 0 =
      match firstFinal? isFinal r.lookahead with
      | some j => (true, j)
      | none => (false, r.lookahead - 1) := by
  obtain ⟨n, hn⟩ : ∃ n, r.lookahead = n + 1 := ⟨r.lookahead - 1, by have := r.lookahead_pos; omega⟩
  rw [hn, search_succ, firstFinal?, List.range_eq_range', Nat.zero_add, Nat.add_sub_cancel]

/-- The recorder with a provisional final state. -/
def await (r : Recorder) (state : List Fact) : Recorder :=
  { r with
    phase := .pendingTerminal
    trace := { r.trace with states := r.trace.states ++ [((r.turn : Int), state)] } }

/-- **A probe is the first final candidate.** Only that candidate is grounded. -/
theorem probe_eq_match (r : Recorder) (candidate : Nat → α) (isFinal : α → Bool)
    (ground : α → Except Fault (List Fact)) :
    r.probe candidate isFinal ground =
      match firstFinal? (fun i => isFinal (candidate i)) r.lookahead with
      | some j => (ground (candidate j)).map fun state => ⟨r.await state, true, j⟩
      | none => .ok ⟨r, false, r.lookahead - 1⟩ := by
  rw [probe, search_lookahead]
  cases firstFinal? (fun i => isFinal (candidate i)) r.lookahead with
  | none => rfl
  | some j => cases h : ground (candidate j) <;> simp only [h] <;> rfl

/-- A probe whose candidates can all be grounded. -/
theorem probe_eq (r : Recorder) (candidate : Nat → α) (isFinal : α → Bool)
    (ground : α → Except Fault (List Fact)) {terminal : Nat → List Fact}
    (h : ∀ i, ground (candidate i) = .ok (terminal i)) :
    r.probe candidate isFinal ground =
      .ok (match firstFinal? (fun i => isFinal (candidate i)) r.lookahead with
        | some j => ⟨r.await (terminal j), true, j⟩
        | none => ⟨r, false, r.lookahead - 1⟩) := by
  rw [probe_eq_match]
  cases firstFinal? (fun i => isFinal (candidate i)) r.lookahead with
  | none => rfl
  | some j => simp only [h j, Except.map]

end Recorder

end PlayTrace
