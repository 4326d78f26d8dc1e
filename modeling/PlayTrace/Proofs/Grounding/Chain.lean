import Mathlib.Algebra.BigOperators.Ring.Finset
import PlayTrace.Proofs.Grounding.Ledger
import PlayTrace.Proofs.Grounding.Unseen

/-!
# A ledger along a chain of snapshots

A ledger that is shown one snapshot after the other adds up what becomes fewer from each to the
next. What becomes more it does not take back, so its count is not the difference between the first
snapshot and the last: it is this difference plus all that was added in between. For the same reason
it matters how closely the ledger looks. A resource that vanishes and reappears between two looks is
missed by a ledger that skips the snapshots in between, and never the other way round.

Nothing is assumed of the snapshots. They need not come from one game, nor have the same size.

## Main definitions

* `Ledger.follow` — the ledger after the first steps of a chain

## Main results

* `Ledger.count_follow_add` — the law of the chain, as an equation of sums
* `Ledger.count_follow_comp_le` — a ledger that skips snapshots counts no more
* `Ledger.exists_picked_follow` — the whole account of a resource
-/

namespace PlayTrace

namespace Ledger

open Finset

/-- The ledger after the first `n` steps of a chain of snapshots. -/
def follow (l : Ledger) (g : Nat → Snapshot) : Nat → Ledger
  | 0 => l
  | n + 1 => (follow l g n).update (g n) (g (n + 1))

variable {l : Ledger} {g : Nat → Snapshot} {key : String} {m n : Nat}

@[simp] theorem keys_follow (l : Ledger) (g : Nat → Snapshot) (n : Nat) :
    (l.follow g n).keys = l.keys := by
  induction n with
  | zero => rfl
  | succ n ih => rw [follow, keys_update, ih]

theorem mem_keys_counts_follow (h : key ∈ l.counts.keys) (g : Nat → Snapshot) (n : Nat) :
    key ∈ (l.follow g n).counts.keys := by
  induction n with
  | zero => exact h
  | succ n ih => exact mem_keys_counts_update ih _ _

/-! ### One step -/

theorem count_follow_succ (hnodup : l.keys.Nodup) (hkey : key ∈ l.keys) (g : Nat → Snapshot)
    (n : Nat) :
    (l.follow g (n + 1)).count key =
      (l.follow g n).count key + collected (g n) (g (n + 1)) key := by
  have hnodup' : (l.follow g n).keys.Nodup := by rwa [keys_follow]
  have hkey' : key ∈ (l.follow g n).keys := by rwa [keys_follow]
  rw [follow, count_update hnodup', if_pos hkey']

/-- What is collected on the way from one snapshot to the other, and what appears on it. -/
theorem collected_add_count (before after : Snapshot) (key : String) :
    collected before after key + after.count key =
      before.count key + collected after before key := by
  simp only [collected]
  omega

/-! ### Many steps -/

/-- The count is the sum of what was reported. -/
theorem count_follow (hnodup : l.keys.Nodup) (hkey : key ∈ l.keys) (g : Nat → Snapshot) (n : Nat) :
    (l.follow g n).count key =
      l.count key + ∑ i ∈ range n, collected (g i) (g (i + 1)) key := by
  induction n with
  | zero => rfl
  | succ n ih => rw [count_follow_succ hnodup hkey, ih, sum_range_succ, Nat.add_assoc]

/-- **The law of the chain.** What was counted and what is left is what was there at first and what
has appeared since. -/
theorem count_follow_add (hnodup : l.keys.Nodup) (hkey : key ∈ l.keys) (g : Nat → Snapshot)
    (n : Nat) :
    (l.follow g n).count key + (g n).count key =
      l.count key + (g 0).count key + ∑ i ∈ range n, collected (g (i + 1)) (g i) key := by
  induction n with
  | zero => rfl
  | succ n ih =>
    have hstep := collected_add_count (g n) (g (n + 1)) key
    rw [count_follow_succ hnodup hkey, sum_range_succ]
    omega

/-- A later count is greater by at least what the two snapshots differ in. -/
theorem count_follow_add_collected_le (hnodup : l.keys.Nodup) (hkey : key ∈ l.keys)
    (g : Nat → Snapshot) (h : m ≤ n) :
    (l.follow g m).count key + collected (g m) (g n) key ≤ (l.follow g n).count key := by
  induction n, h using Nat.le_induction with
  | base => simp [collected]
  | succ n _ ih =>
    rw [count_follow_succ hnodup hkey]
    simp only [collected] at ih ⊢
    omega

/-- **A ledger that skips snapshots** counts no more than one that sees them all. -/
theorem count_follow_comp_le (hnodup : l.keys.Nodup) (hkey : key ∈ l.keys) (g : Nat → Snapshot)
    {f : Nat → Nat} (hf : ∀ i < n, f i ≤ f (i + 1)) :
    (l.follow (g ∘ f) n).count key ≤ (l.follow g (f n)).count key := by
  induction n with
  | zero =>
    have hle := count_follow_add_collected_le hnodup hkey g (Nat.zero_le (f 0))
    exact (Nat.le_add_right _ _).trans hle
  | succ n ih =>
    calc (l.follow (g ∘ f) (n + 1)).count key
        = (l.follow (g ∘ f) n).count key + collected (g (f n)) (g (f (n + 1))) key :=
          count_follow_succ hnodup hkey _ n
      _ ≤ (l.follow g (f n)).count key + collected (g (f n)) (g (f (n + 1))) key :=
          Nat.add_le_add_right (ih fun i hi => hf i (Nat.lt_succ_of_lt hi)) _
      _ ≤ (l.follow g (f (n + 1))).count key :=
          count_follow_add_collected_le hnodup hkey g (hf n (Nat.lt_succ_self n))

/-- **The account of a resource** along a chain of snapshots. What has been picked is what the single
steps reported, and it is what the first snapshot has more than the last, plus what has appeared in
between. So it never falls, it is at least the difference between the first snapshot and the last,
and it is that difference exactly when the resource never becomes more. A ledger that sees only some
of the snapshots, from the first to the last, has picked no more. -/
theorem exists_picked_follow {keys : List String} (hnodup : keys.Nodup) (hkey : key ∈ keys)
    (g : Nat → Snapshot) :
    ∃ picked delta : Nat → Nat,
      (∀ n, ((ofKeys keys).follow g n).picked key = .ok (picked n)) ∧
      (∀ i, (((ofKeys keys).follow g i).deltas (g i) (g (i + 1))).get? key = some (delta i)) ∧
      ∀ n,
        picked n = ∑ i ∈ range n, delta i ∧
        (picked n : Int) = (g 0).count key - (g n).count key +
          ∑ i ∈ range n, max 0 (((g (i + 1)).count key : Int) - (g i).count key) ∧
        (∀ m ≤ n, picked m ≤ picked n) ∧
        ((g 0).count key : Int) - (g n).count key ≤ picked n ∧
        ((picked n : Int) = (g 0).count key - (g n).count key ↔
          ∀ i < n, (g (i + 1)).count key ≤ (g i).count key) ∧
        ∀ (k : Nat) (f : Nat → Nat), f 0 = 0 → f k = n → (∀ i < k, f i < f (i + 1)) →
          ∃ coarse, ((ofKeys keys).follow (g ∘ f) k).picked key = .ok coarse ∧
            coarse ≤ picked n := by
  have hkeys : (ofKeys keys).keys.Nodup := hnodup
  have hmem : key ∈ (ofKeys keys).keys := hkey
  have hpicked (h : Nat → Snapshot) (n : Nat) : ((ofKeys keys).follow h n).picked key =
      .ok (((ofKeys keys).follow h n).count key) :=
    picked_eq (mem_keys_counts_follow (mem_keys_counts_ofKeys hnodup hkey) h n)
  refine ⟨fun n => ((ofKeys keys).follow g n).count key,
    fun i => collected (g i) (g (i + 1)) key, hpicked g, fun i => ?_, fun n => ?_⟩
  · rw [get?_deltas (by rwa [keys_follow]), if_pos (by rwa [keys_follow])]
  -- The equation of sums, from which the rest is arithmetic.
  have hlaw := count_follow_add hkeys hmem g n
  rw [count_ofKeys hnodup, Nat.zero_add] at hlaw
  dsimp only
  refine ⟨?_, ?_, fun m hm => ?_, by omega, ?_, fun k f _ hlast hf => ?_⟩
  · rw [count_follow hkeys hmem, count_ofKeys hnodup, Nat.zero_add]
  · have hgrowth : ∀ i, max 0 (((g (i + 1)).count key : Int) - (g i).count key) =
        collected (g (i + 1)) (g i) key := fun i => by simp only [collected]; omega
    simp only [hgrowth, ← Nat.cast_sum]
    omega
  · exact (Nat.le_add_right _ _).trans (count_follow_add_collected_le hkeys hmem g hm)
  · have hnone : ∑ i ∈ range n, collected (g (i + 1)) (g i) key = 0 ↔
        ∀ i < n, (g (i + 1)).count key ≤ (g i).count key := by
      simp only [sum_eq_zero_iff, mem_range, collected, Nat.sub_eq_zero_iff_le]
    rw [← hnone]
    omega
  · refine ⟨_, hpicked _ k, ?_⟩
    rw [← hlast]
    exact count_follow_comp_le hkeys hmem g fun i hi => (hf i hi).le

/-- A gem that is there, and gone, by turns. -/
def flicker (n : Nat) : Snapshot :=
  Domain.singleCell [if n % 2 = 0 then "gem" else "stone"] (by simp)

/-- In three steps the gem vanishes twice. A ledger that looks at the first and the last snapshot
alone has picked it once. -/
theorem exists_picked_flicker :
    (["stone", "gem"].Nodup ∧ "gem" ∈ ["stone", "gem"]) ∧
      ((ofKeys ["stone", "gem"]).follow flicker 3).picked "gem" = .ok 2 ∧
      ∃ coarse, ((ofKeys ["stone", "gem"]).follow (flicker ∘ (3 * ·)) 1).picked "gem" = .ok coarse ∧
        coarse ≤ 2 := by
  have hnodup : ["stone", "gem"].Nodup := by decide
  have hkey : "gem" ∈ ["stone", "gem"] := by decide
  obtain ⟨picked, delta, hpicked, -, haccount⟩ := exists_picked_follow hnodup hkey flicker
  obtain ⟨-, hpicked3, -, -, -, hcoarse⟩ := haccount 3
  have htwo : picked 3 = 2 := by
    have hsum : ∑ i ∈ range 3, max 0 (((flicker (i + 1)).count "gem" : Int) -
        (flicker i).count "gem") = 1 := by decide
    have hfirst : (flicker 0).count "gem" = 1 := by decide
    have hlast : (flicker 3).count "gem" = 0 := by decide
    rw [hsum, hfirst, hlast] at hpicked3
    omega
  rw [← htwo]
  exact ⟨⟨hnodup, hkey⟩, hpicked 3, hcoarse 1 (3 * ·) rfl rfl fun i _ => by omega⟩

end Ledger

end PlayTrace
