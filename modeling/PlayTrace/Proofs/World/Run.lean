import Mathlib.Data.Nat.Find
import PlayTrace.Proofs.World.Places

/-!
# Runs of a world

A world under a sequence of actions, however it was chosen. Every world of the run is sound when the
first one is, and all of them are worlds of the same game. A world that has ended stays as it is,
and one that goes on uses up its time, so a run comes to its end within the number of steps that the
first world can still take.

What leaves the world enters the inventory, over a whole run as in a single step.

## Main definitions

* `World.after` — the world after the first `n` actions of a sequence

## Main results

* `World.Sound.after`, `Sound.sameGame_after` — soundness, and the game, over a run
* `World.Sound.exists_end` — a run has a first end
* `World.Sound.keyCount_add_held_after` — conservation over a run
-/

namespace PlayTrace

namespace World

variable {w : World}

/-- The world after the first `n` of a sequence of actions. -/
def after (w : World) (actions : Nat → Action) : Nat → World
  | 0 => w
  | n + 1 => (w.after actions n).advance (actions n)

@[simp] theorem after_zero (w : World) (actions : Nat → Action) : w.after actions 0 = w := rfl

theorem after_succ (w : World) (actions : Nat → Action) (n : Nat) :
    w.after actions (n + 1) = (w.after actions n).advance (actions n) := rfl

/-! ### What is kept -/

theorem Sound.after (hw : Sound w) (actions : Nat → Action) (n : Nat) :
    Sound (w.after actions n) := by
  induction n with
  | zero => exact hw
  | succ n ih => exact ih.advance (actions n)

theorem Sound.sameGame_after (hw : Sound w) (actions : Nat → Action) (n : Nat) :
    SameGame w (w.after actions n) := by
  induction n with
  | zero => exact .refl w
  | succ n ih => exact ih.trans ((hw.after actions n).sameGame_advance (actions n))

theorem Measurable.after (hm : Measurable w) (hw : Sound w) (actions : Nat → Action) (n : Nat) :
    Measurable (w.after actions n) :=
  hm.of_sameGame (hw.sameGame_after actions n)

/-! ### The end -/

theorem ended_after_of_le {actions : Nat → Action} {m n : Nat} (hmn : m ≤ n)
    (h : (w.after actions m).ended = true) : (w.after actions n).ended = true := by
  induction hmn with
  | refl => exact h
  | step _ ih => rwa [after_succ, advance_of_ended ih]

/-- As long as a world goes on, its time passes. -/
theorem Sound.tick_after (hw : Sound w) {actions : Nat → Action} {n : Nat}
    (h : ∀ i < n, (w.after actions i).ended = false) :
    (w.after actions n).tick = w.tick + n := by
  induction n with
  | zero => rfl
  | succ n ih =>
    have hprev := ih fun i hi => h i (hi.trans (Nat.lt_succ_self n))
    rw [after_succ, (hw.after actions n).tick_advance (h n (Nat.lt_succ_self n)), hprev]
    omega

/-- A run has ended when its time is up. -/
theorem Sound.ended_after_remaining (hw : Sound w) (actions : Nat → Action) :
    (w.after actions w.remaining).ended = true := by
  by_contra hnot
  have hgoes : ∀ i ≤ w.remaining, (w.after actions i).ended = false := fun i hi =>
    Bool.eq_false_iff.2 fun h => hnot (ended_after_of_le hi h)
  have hw₀ : w.ended = false := hgoes 0 (Nat.zero_le _)
  have hremaining : w.remaining = max 1 (w.maxSteps - w.tick).toNat := by
    rw [remaining, hw₀]
    rfl
  obtain ⟨n, hn⟩ : ∃ n, w.remaining = n + 1 := ⟨w.remaining - 1, by omega⟩
  have htick := hw.tick_after (n := n + 1) fun i hi => hgoes i (by omega)
  have hlt := (hw.after actions n).tick_lt_maxSteps (hgoes n (by omega)) (actions n)
    (hgoes (n + 1) (by omega))
  rw [← after_succ, htick, (hw.sameGame_after actions n).maxSteps] at hlt
  push_cast at hlt
  omega

/-- **A run has a first end.** -/
theorem Sound.exists_end (hw : Sound w) (actions : Nat → Action) :
    ∃ n ≤ w.remaining, (w.after actions n).ended = true ∧
      ∀ i < n, (w.after actions i).ended = false := by
  have hend : ∃ n, (w.after actions n).ended = true := ⟨_, hw.ended_after_remaining actions⟩
  refine ⟨Nat.find hend, Nat.find_min' hend (hw.ended_after_remaining actions),
    Nat.find_spec hend, ?_⟩
  intro i hi
  exact Bool.eq_false_iff.2 (Nat.find_min hend hi)

/-! ### Conservation -/

/-- A step changes the sprites and the inventory as its effect does. -/
theorem Sound.advance_counts (hw : Sound w) (a : Action) (key : String) :
    (w.advance a).keyCount key + (w.advance a).held key = w.keyCount key + w.held key ∧
      (w.advance a).keyCount key ≤ w.keyCount key ∧
      (key ∉ w.resources → (w.advance a).held key = w.held key) := by
  cases h : w.ended with
  | true =>
    rw [advance_of_ended h]
    exact ⟨rfl, le_rfl, fun _ => rfl⟩
  | false =>
    obtain ⟨v, hv, hadvance⟩ := hw.exists_effect h a
    rw [hadvance, keyCount_expire, held_expire]
    exact ⟨hv.keyCount_add_held key, hv.keyCount_le key, hv.held_of_not_resource⟩

/-- **What leaves the world enters the inventory.** -/
theorem Sound.keyCount_add_held_after (hw : Sound w) (actions : Nat → Action) (n : Nat)
    (key : String) :
    (w.after actions n).keyCount key + (w.after actions n).held key =
      w.keyCount key + w.held key := by
  induction n with
  | zero => rfl
  | succ n ih => exact ((hw.after actions n).advance_counts (actions n) key).1.trans ih

theorem Sound.held_after_of_not_resource (hw : Sound w) (actions : Nat → Action) (n : Nat)
    {key : String} (hkey : key ∉ w.resources) : (w.after actions n).held key = w.held key := by
  induction n with
  | zero => rfl
  | succ n ih =>
    have hkey' : key ∉ (w.after actions n).resources := by
      rwa [(hw.sameGame_after actions n).resources]
    exact (((hw.after actions n).advance_counts (actions n) key).2.2 hkey').trans ih

end World

end PlayTrace
