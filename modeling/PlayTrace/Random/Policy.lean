import PlayTrace.Fault

/-!
# Random choice

A player without a plan chooses among the actions at random. Where the randomness comes from is left
open: a source is a state together with a way to draw a number below a bound from it.
-/

namespace PlayTrace

/-- A way to draw a number below a bound from a state. -/
abbrev Draw (σ : Type) := Nat → σ → Nat × σ

namespace Draw

variable {σ α : Type}

/-- Draws the index of one of `n` things. -/
def index (draw : Draw σ) (n : Nat) (s : σ) : Except Fault (Nat × σ) :=
  if n = 0 then .error .noActions
  else
    let (i, s) := draw n s
    .ok (i % n, s)

/-- Chooses one of several things. -/
def choose (draw : Draw σ) (options : List α) (s : σ) : Except Fault (α × σ) := do
  let (i, s) ← draw.index options.length s
  match options[i]? with
  | some a => return (a, s)
  | none => throw .noActions

end Draw

end PlayTrace
