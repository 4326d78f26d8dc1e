import PlayTrace.Proofs.Episode.Run
import PlayTrace.Proofs.World.Start

/-!
# Conservation of resources

Three parts of a game in play count resources: the ledger of the agent, which compares what a world
and its successor show; the inventory of the world; and the world itself, where a collected sprite
is missing. They agree after any number of turns. In one turn, the ledger grows by what the two
snapshots differ in, which is what has left the world, which is what has entered the inventory. The
background key is left out, for a cell that the avatar leaves empty shows one more of it.

## Main results

* `Agent.count_ledgerAt` — the ledger and the inventory grow alike
* `Episode.exists_turns_count_eq_held` — the three counts agree all the time
-/

namespace PlayTrace

namespace Agent

open World

variable {w : World} {l : Ledger} {key : String}

theorem mem_keys_counts_ledgerAt (hw : Sound w) (actions : Nat → Action) (n : Nat)
    (h : key ∈ l.counts.keys) : key ∈ (ledgerAt l hw actions n).counts.keys := by
  induction n with
  | zero => exact h
  | succ n ih => exact Ledger.mem_keys_counts_update ih _ _

/-- What the ledger adds for an action is what has left the world. -/
theorem count_ledgerAfter (hw : Sound w) (a : Action) (hnodup : l.keys.Nodup) (hmem : key ∈ l.keys)
    (hkey : key ≠ backgroundKey) :
    (ledgerAfter l hw a).count key =
      l.count key + (w.keyCount key - (w.advance a).keyCount key) := by
  rw [ledgerAfter, Ledger.count_update hnodup, if_pos hmem, Ledger.collected,
    hw.count_picture hkey, (hw.advance a).count_picture hkey]

/-- **The ledger and the inventory grow alike.** -/
theorem count_ledgerAt (hw : Sound w) (actions : Nat → Action) (n : Nat) (hnodup : l.keys.Nodup)
    (hmem : key ∈ l.keys) (hkey : key ≠ backgroundKey) :
    (ledgerAt l hw actions n).count key + w.held key =
      l.count key + (w.after actions n).held key := by
  induction n with
  | zero => rfl
  | succ n ih =>
    have hstep := count_ledgerAfter (l := ledgerAt l hw actions n) (hw.after actions n) (actions n)
      (by rwa [keys_ledgerAt]) (by rwa [keys_ledgerAt]) hkey
    obtain ⟨hsum, hle, -⟩ := (hw.after actions n).advance_counts (actions n) key
    rw [ledgerAt, hstep, after_succ]
    omega

/-- What the ledger of a domain has counted is what the world holds, if it held nothing at first. -/
theorem count_ledgerAt_ofDomain {D : Domain} (hw : Sound w) (actions : Nat → Action) (n : Nat)
    (hmem : key ∈ D.pickups.keys) (hkey : key ≠ backgroundKey) (hheld : w.held key = 0) :
    (ledgerAt (.ofDomain D) hw actions n).count key = (w.after actions n).held key := by
  have hcount := count_ledgerAt hw actions n (Ledger.nodup_keys_ofDomain D) hmem hkey
  rw [hheld, Ledger.count_ofDomain] at hcount
  omega

/-- The ledger never falls. -/
theorem count_ledgerAt_le_succ (hw : Sound w) (actions : Nat → Action) (n : Nat)
    (hnodup : l.keys.Nodup) :
    (ledgerAt l hw actions n).count key ≤ (ledgerAt l hw actions (n + 1)).count key := by
  rw [ledgerAt, ledgerAfter, Ledger.count_update (by rwa [keys_ledgerAt])]
  exact Nat.le_add_right _ _

end Agent

namespace Episode

open World

variable {σ : Type}

/-- **The three counts agree all the time.** `turns i` is the game in play after `i` turns, or at
its end if that comes before, so its world is that after as many actions. What the ledger has
counted is what the world holds in its inventory, and that is what the world has lost since the
beginning. The count never falls, and it is zero for
ever for a key that is no resource of the game. The same holds of the episode, which is the game in
play at its end.

As for every episode, a level that machine arithmetic is used on has to have indices that a machine
can hold. -/
theorem exists_turns_count_eq_held (D : Domain) (g : Game) (p : Precision) (settings : Settings)
    (draw : Draw σ) (source : σ) (hm : (World.ofGame g p).Measurable) {key : String}
    (hmem : key ∈ D.pickups.keys) (hkey : key ≠ backgroundKey) :
    ∃ (A : Agent) (turns : Nat → Play σ) (e : Episode),
      Agent.start D settings.mode (World.ofGame g p) = .ok A ∧
      (∀ i, (Play.start A settings (World.ofGame g p) source).turns A draw i = .ok (turns i)) ∧
      (∀ i, (turns i).world =
        (World.ofGame g p).after (draw.actionAt source) (min i e.turns)) ∧
      (play D settings draw (World.ofGame g p) source = .ok e ∧
        e.world = (turns (World.ofGame g p).remaining).world ∧
        e.ledger = (turns (World.ofGame g p).remaining).agent.ledger) ∧
      ∀ i,
        (turns i).agent.ledger.picked key = .ok ((turns i).world.held key) ∧
        ((turns i).world.held key : Int) =
          (World.ofGame g p).keyCount key - (turns i).world.keyCount key ∧
        (turns i).world.held key ≤ (turns (i + 1)).world.held key ∧
        (key ∉ g.resources → (turns i).world.held key = 0) := by
  have hw := World.sound_ofGame g p
  obtain ⟨n, atoms, hcourse⟩ := exists_course D settings.mode hw hm rfl draw source
  obtain ⟨turns, hturns⟩ := Classical.axiomOfChoice (hcourse.turns settings)
  have hworld : ∀ i, (turns i).world = (World.ofGame g p).after (draw.actionAt source) (min i n) :=
    fun i => (hturns i).2.world
  have hledger : ∀ i, (turns i).agent.ledger =
      Agent.ledgerAt (.ofDomain D) hw (draw.actionAt source) (min i n) :=
    fun i => (hturns i).2.ledger
  have hheld : ∀ m, (Agent.ledgerAt (.ofDomain D) hw (draw.actionAt source) m).count key =
      ((World.ofGame g p).after (draw.actionAt source) m).held key :=
    fun m => Agent.count_ledgerAt_ofDomain hw _ m hmem hkey (held_ofGame g p key)
  refine ⟨_, turns, account D settings.mode hw draw source n atoms,
    Agent.start_eq D settings.mode hw, fun i => (hturns i).1, hworld,
    ⟨hcourse.play_eq rfl, ?_, ?_⟩, ?_⟩
  · rw [hworld, Nat.min_eq_right hcourse.le_remaining]
    rfl
  · rw [hledger, Nat.min_eq_right hcourse.le_remaining]
    rfl
  intro i
  refine ⟨?_, ?_, ?_, ?_⟩
  · rw [hledger, Ledger.picked_eq (Agent.mem_keys_counts_ledgerAt hw _ _
      (Ledger.mem_keys_counts_ofDomain hmem)), hheld, hworld]
  · have hsum := hw.keyCount_add_held_after (draw.actionAt source) (min i n) key
    rw [held_ofGame] at hsum
    rw [hworld]
    omega
  · rw [hworld, hworld, ← hheld, ← hheld]
    rcases Nat.lt_or_ge i n with hlt | hge
    · rw [Nat.min_eq_left hlt.le, Nat.min_eq_left (Nat.succ_le_of_lt hlt)]
      exact Agent.count_ledgerAt_le_succ hw _ i (Ledger.nodup_keys_ofDomain D)
    · rw [Nat.min_eq_right hge, Nat.min_eq_right (Nat.le_succ_of_le hge)]
  · intro hres
    rw [hworld, hw.held_after_of_not_resource _ _ hres, held_ofGame]

/-- The gem at the end of the corridor is collected in the one step that there is. -/
theorem exists_turns_corridor_count_eq_held :
    ("gem" ∈ gemDomain.pickups.keys ∧ "gem" ≠ backgroundKey ∧
      (World.ofGame corridor .binary64).Measurable) ∧
      ∃ e, play gemDomain .standard rightward (World.ofGame corridor .binary64) () = .ok e ∧
        e.ledger.picked "gem" = .ok 1 ∧ e.world.held "gem" = 1 := by
  have hmem : "gem" ∈ gemDomain.pickups.keys := by decide
  have hkey : "gem" ≠ backgroundKey := by decide
  have hm : (World.ofGame corridor .binary64).Measurable := fun _ => by decide
  refine ⟨⟨hmem, hkey, hm⟩, ?_⟩
  obtain ⟨A, turns, e, -, -, hworlds, ⟨hplay, hworld, hledger⟩, hcounts⟩ :=
    exists_turns_count_eq_held gemDomain corridor .binary64 .standard rightward () hm hmem hkey
  have hpos := turns_pos (World.sound_ofGame corridor .binary64) hm rfl hplay
  have hremaining : (World.ofGame corridor .binary64).remaining = 1 := by decide
  have hlast : e.world = (World.ofGame corridor .binary64).advance (.move .right) := by
    rw [hworld, hworlds, hremaining, Nat.min_eq_left hpos]
    rfl
  have hheld : e.world.held "gem" = 1 := by
    rw [hlast]
    decide +kernel
  refine ⟨e, hplay, ?_, hheld⟩
  rw [hledger, (hcounts _).1, ← hworld, hheld]

end Episode

end PlayTrace
