import PlayTrace.Proofs.Episode.Conservation
import PlayTrace.Proofs.Grounding.Blocks
import PlayTrace.Proofs.World.Frame

/-!
# What a turn leaves alone

Every state of a trace is made from scratch, out of a fresh snapshot. For all that, a turn changes
little of it. The block of a cell depends on what is shown there, and a step touches two cells at
most: the one that the avatar leaves and the one that it enters. In the cell that it leaves, all
else stays. What is said about collected resources only grows, for the ledger never falls, and
connectivity is worked out once.

## Main definitions

* `World.blocksOf` — the blocks of a world
* `World.KeepsBlocks` — what a step leaves alone

## Main results

* `World.Sound.keepsBlocks_advance` — what a step leaves alone
* `Episode.exists_turns_keepsBlocks` — what every turn of an episode leaves alone
-/

namespace PlayTrace

namespace World

variable {w : World} {s : Sprite}

/-- The blocks of a world. -/
def blocksOf (w : World) (D : Domain) (mode : Mode) (c : Cell) : List Fact :=
  D.block mode c (w.shownAt c)

/-- What the step from `w` to `v` under an action leaves alone, where the avatar is `s` before and
`t` after it, and `before` and `after` are the blocks of the two states. -/
structure KeepsBlocks (D : Domain) (mode : Mode) (w v : World) (a : Action) (s t : Sprite)
    (before after : Cell → List Fact) : Prop where
  /-- a use, a turn and a blocked move leave the avatar in its cell -/
  stays : (a = .use ∨ v.orientation ≠ w.orientation ∨
    ∃ d, a = .move d ∧ w.admits (s.cell.neighbour d) = false) → t.cell = s.cell
  /-- an avatar that stays in its cell leaves every block as it is -/
  of_eq : t.cell = s.cell → ∀ c, after c = before c
  /-- an avatar that leaves its cell for a neighbour changes two blocks, and its old cell has the
  block of what remains there -/
  of_ne : t.cell ≠ s.cell → ∃ d, a = .move d ∧ t.cell = s.cell.neighbour d ∧
    (∀ c, c ≠ s.cell → c ≠ t.cell → after c = before c) ∧
    D.blockOf mode s.cell (Snapshot.shownKeys ((w.othersAt s.cell).map fun e => e.2.key)) =
      .ok (after s.cell)

/-- The facts of a sound world are composed of its blocks. -/
theorem Sound.composedOf (hw : Sound w) (D : Domain) (mode : Mode) (g : Connectivity)
    (o : Orientation) (picked : String → Int) :
    D.ComposedOf mode g hw.picture o picked (w.blocksOf D mode) (D.collectedFacts picked)
      (D.stateFacts mode g hw.picture o picked) :=
  Domain.composedOf_stateFacts hw.rowMajor_picture fun _ hc => hw.keysAt_picture hc

/-- **What a step leaves alone.** -/
theorem Sound.keepsBlocks_advance (hw : Sound w) (hended : w.ended = false)
    (hs : w.avatar? = some s) (D : Domain) (mode : Mode) (a : Action) :
    ∃ t, (w.advance a).avatar? = some t ∧
      KeepsBlocks D mode w (w.advance a) a s t (w.blocksOf D mode)
        ((w.advance a).blocksOf D mode) := by
  obtain ⟨t, ht, ⟨hcell, hall⟩ | ⟨d, rfl, hcell, hadmits, horientation, hothers⟩⟩ :=
    hw.spritesAt_advance hended hs a
  · refine ⟨t, ht, fun _ => hcell, fun _ c => ?_, fun hne => absurd hcell hne⟩
    rw [blocksOf, blocksOf, shownAt, shownAt, hall]
  · have hne : t.cell ≠ s.cell := by
      rw [hcell]
      exact Cell.neighbour_ne s.cell d
    refine ⟨t, ht, ?_, fun heq => absurd heq hne, fun _ => ⟨d, rfl, hcell, ?_, ?_⟩⟩
    · rintro (huse | hturn | ⟨d', hd', hblocked⟩)
      · cases huse
      · exact absurd horientation hturn
      · obtain rfl := Action.move.inj hd'
        rw [hadmits] at hblocked
        cases hblocked
    · intro c hc hct
      rw [blocksOf, blocksOf, shownAt, shownAt, hothers c hct, othersAt_of_ne hs hc]
    · rw [blocksOf, shownAt, hothers s.cell hne.symm]
      exact D.blockOf_eq mode s.cell _

end World

namespace Agent

open World

variable {w : World}

/-- What is said about collected resources only grows. -/
theorem collectedFacts_ledgerAt_sublist (D : Domain) (hw : Sound w) (actions : Nat → Action)
    (n : Nat) :
    (D.collectedFacts fun k => (ledgerAt (.ofDomain D) hw actions n).count k).Sublist
      (D.collectedFacts fun k => (ledgerAt (.ofDomain D) hw actions (n + 1)).count k) := by
  apply Domain.collectedFacts_sublist
  intro key hpos
  have hle : (ledgerAt (.ofDomain D) hw actions n).count key ≤
      (ledgerAt (.ofDomain D) hw actions (n + 1)).count key :=
    count_ledgerAt_le_succ hw actions n (Ledger.nodup_keys_ofDomain D)
  omega

end Agent

namespace Episode

open World Agent

variable {σ : Type}

/-- **What every turn leaves alone.** `turns i` is the game in play after `i` turns. The state that
is recorded then is composed of blocks, one for each cell, of facts about collected resources and of
connectivity, and the latter is the same in all states. A turn in which the avatar does not change
its cell leaves all blocks as they are. A turn in which it does leaves all but two of them, and the
cell that was left has the block of what remains in it. The facts about collected resources stand in
the order of the domain, and none of them disappears.

As for every episode, a level that machine arithmetic is used on has to have indices that a machine
can hold. -/
theorem exists_turns_keepsBlocks (D : Domain) (g : Game) (p : Precision) (settings : Settings)
    (draw : Draw σ) (source : σ) (hm : (World.ofGame g p).Measurable) :
    ∃ (A : Agent) (turns : Nat → Play σ) (e : Episode) (blocks : Nat → Cell → List Fact)
      (pickups : Nat → List Fact),
      Agent.start D settings.mode (World.ofGame g p) = .ok A ∧
      (∀ i, (Play.start A settings (World.ofGame g p) source).turns A draw i = .ok (turns i)) ∧
      play D settings draw (World.ofGame g p) source = .ok e ∧
      (∀ i ≤ e.turns, (turns i).world = (World.ofGame g p).after (draw.actionAt source) i) ∧
      (∀ i ≤ e.turns, ∃ s facts, (turns i).world.snapshot = .ok s ∧
        e.trace.states[i]? = some ((i : Int), facts) ∧
        D.ComposedOf settings.mode A.connectivity s (turns i).world.orientation
          (fun k => (turns i).agent.ledger.count k) (blocks i) (pickups i) facts) ∧
      (∃ atoms, (D.pickups.values.mapM fun t => t.instantiate D.avatarBinding) = .ok atoms ∧
        ∀ i ≤ e.turns, (pickups i).Sublist (atoms.map .plain)) ∧
      ∀ i < e.turns, (pickups i).Sublist (pickups (i + 1)) ∧
        ∃ s t, (turns i).world.avatar? = some s ∧ (turns (i + 1)).world.avatar? = some t ∧
          KeepsBlocks D settings.mode (turns i).world (turns (i + 1)).world
            (draw.actionAt source i) s t (blocks i) (blocks (i + 1)) := by
  have hw := World.sound_ofGame g p
  obtain ⟨n, atoms, hcourse⟩ := exists_course D settings.mode hw hm rfl draw source
  obtain ⟨turns, hturns⟩ := Classical.axiomOfChoice (hcourse.turns settings)
  have hworld : ∀ i ≤ n, (turns i).world = (World.ofGame g p).after (draw.actionAt source) i := by
    intro i hi
    rw [(hturns i).2.world, Nat.min_eq_left hi]
  have hledger : ∀ i ≤ n, (turns i).agent.ledger =
      ledgerAt (.ofDomain D) hw (draw.actionAt source) i := by
    intro i hi
    have hstands := (hturns i).2.ledger
    rw [Nat.min_eq_left hi] at hstands
    exact hstands
  obtain ⟨all, hall, hsublist⟩ := D.exists_collectedFacts_sublist
  refine ⟨_, turns, account D settings.mode hw draw source n atoms,
    fun i => ((World.ofGame g p).after (draw.actionAt source) i).blocksOf D settings.mode,
    fun i => D.collectedFacts fun k =>
      (ledgerAt (.ofDomain D) hw (draw.actionAt source) i).count k,
    Agent.start_eq D settings.mode hw, fun i => (hturns i).1, hcourse.play_eq rfl, hworld, ?_,
    ⟨all, hall, fun i _ => hsublist _⟩, ?_⟩
  · intro i hi
    have hsound := hw.after (draw.actionAt source) i
    refine ⟨hsound.picture, _, ?_, getElem?_states_account hi, ?_⟩
    · rw [hworld i hi]
      exact hsound.snapshot_eq
    · rw [hworld i hi, hledger i hi]
      exact hsound.composedOf D settings.mode _ _ _
  · intro i hi
    have hsound := hw.after (draw.actionAt source) i
    obtain ⟨s, hs⟩ := hsound.avatar
    obtain ⟨t, ht, hkeeps⟩ := hsound.keepsBlocks_advance (hcourse.goes_on i hi) hs D settings.mode
      (draw.actionAt source i)
    refine ⟨collectedFacts_ledgerAt_sublist D hw _ i, s, t, ?_, ?_, ?_⟩
    · rw [hworld i hi.le]
      exact hs
    · rw [hworld (i + 1) hi]
      exact ht
    · rw [hworld i hi.le, hworld (i + 1) hi]
      exact hkeeps

/-- In the first turn in the passage the avatar leaves its cell empty, and the gem two cells away
keeps its block. -/
theorem exists_turns_passage_keepsBlocks :
    (World.ofGame passage .binary64).Measurable ∧
      ∃ (e : Episode) (blocks : Nat → Cell → List Fact),
        play gemDomain .standard rightward (World.ofGame passage .binary64) () = .ok e ∧
        gemDomain.blockOf .cell ⟨0, 0⟩ [backgroundKey] = .ok (blocks 1 ⟨0, 0⟩) ∧
        blocks 1 ⟨2, 0⟩ = blocks 0 ⟨2, 0⟩ := by
  have hm : (World.ofGame passage .binary64).Measurable := fun _ => by decide
  refine ⟨hm, ?_⟩
  obtain ⟨A, turns, e, blocks, pickups, -, -, hplay, hworld, -, -, hkeeps⟩ :=
    exists_turns_keepsBlocks gemDomain passage .binary64 .standard rightward () hm
  have hpos := turns_pos (World.sound_ofGame passage .binary64) hm rfl hplay
  obtain ⟨-, s, t, hs, ht, hblocks⟩ := hkeeps 0 hpos
  rw [hworld 0 hpos.le] at hs
  rw [hworld 1 hpos] at ht
  have hstart : (World.ofGame passage .binary64).avatar? = some ⟨"avatar", ⟨0, 0⟩⟩ := rfl
  have hnext : ((World.ofGame passage .binary64).advance (.move .right)).avatar? =
      some ⟨"avatar", ⟨1, 0⟩⟩ := rfl
  obtain rfl := Option.some.inj (hs.symm.trans hstart)
  obtain rfl := Option.some.inj (ht.symm.trans hnext)
  obtain ⟨d, -, -, hothers, hleft⟩ := hblocks.of_ne (by decide)
  rw [hworld 0 hpos.le] at hleft
  exact ⟨e, blocks, hplay, hleft, hothers ⟨2, 0⟩ (by decide) (by decide)⟩

end Episode

end PlayTrace
