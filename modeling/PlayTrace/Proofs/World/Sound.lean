import PlayTrace.Proofs.World.Sprites

/-!
# Sound worlds

What every world has that a game comes to: the avatar is present, every sprite lies inside the
world, the sprites stand in the order of their numbers, and the avatar looks in a direction.
`World.Sound` says so, and every step keeps it. Nothing here depends on what the sprites are: one
and the same sprite may be solid, a resource, a goal and the avatar.

Time is kept apart. A world that goes on has time left, and a step takes one unit of it.

## Main definitions

* `World.Sound` — what every world has that a game comes to

## Main results

* `World.Sound.effect`, `World.Sound.advance` — soundness is kept
* `World.Sound.tick_advance`, `World.Sound.tick_lt_maxSteps` — the passing of time
-/

namespace PlayTrace

theorem Cell.neighbour_ne (c : Cell) (d : Direction) : c.neighbour d ≠ c := by
  intro h
  obtain ⟨x, y⟩ := c
  rw [Cell.neighbour, Cell.displace, Cell.mk.injEq] at h
  cases d <;> simp only [Direction.step] at h <;> omega

namespace World

variable {w v : World} {a : Action} {s : Sprite} {c : Cell}

/-- What every world has that a game comes to. -/
structure Sound (w : World) : Prop where
  width_pos : 0 < w.width
  height_pos : 0 < w.height
  blockSize : w.blockSize = defaultBlockSize
  /-- the avatar is present -/
  avatar : ∃ s, w.avatar? = some s
  /-- no sprite lies outside -/
  inside : ∀ e ∈ w.sprites.entries, w.inBounds e.2.cell = true
  /-- the sprites stand in the order of their numbers -/
  ordered : w.sprites.entries.Pairwise fun e f => e.1 < f.1
  /-- the avatar looks in a direction -/
  faces : ∃ d, w.orientation = .ofDirection d

/-! ### Moves -/

theorem inBounds_of_sameGame (h : SameGame w v) (c : Cell) : v.inBounds c = w.inBounds c := by
  simp only [inBounds, h.width, h.height]

theorem inBounds_of_admits (h : w.admits c = true) : w.inBounds c = true :=
  (Bool.and_eq_true_iff.1 h).1

/-- The avatar does not collect itself: it comes from elsewhere. -/
theorem avatar?_arrive (hs : w.avatar? = some s) (hne : s.cell ≠ c) :
    (w.arrive s c).avatar? = some { s with cell := c } := by
  rw [avatar?, (sameGame_arrive w s c).avatarId, Table.get?_eq_some_iff, entries_arrive hs,
    List.mem_map]
  refine ⟨(w.avatarId, s), List.mem_filter.2 ⟨mem_entries_of_avatar? hs, ?_⟩, if_pos rfl⟩
  simp [isLoot, hne]

theorem inBounds_of_mem_arrive (hs : w.avatar? = some s)
    (hinside : ∀ e ∈ w.sprites.entries, w.inBounds e.2.cell = true) (hc : w.inBounds c = true)
    {e : Int × Sprite} (he : e ∈ (w.arrive s c).sprites.entries) :
    w.inBounds e.2.cell = true := by
  rw [entries_arrive hs] at he
  obtain ⟨f, hf, rfl⟩ := List.mem_map.1 he
  unfold relocate
  split
  · exact hc
  · exact hinside f (List.mem_filter.1 hf).1

theorem ordered_arrive (hs : w.avatar? = some s)
    (h : w.sprites.entries.Pairwise fun e f => e.1 < f.1) (c : Cell) :
    (w.arrive s c).sprites.entries.Pairwise fun e f => e.1 < f.1 := by
  rw [entries_arrive hs, List.pairwise_map]
  apply (h.sublist List.filter_sublist).imp
  intro e f hlt
  rw [fst_relocate, fst_relocate]
  exact hlt

/-! ### Steps -/

theorem Sound.effect (hw : Sound w) (h : Effect w a v) : Sound v := by
  cases h with
  | use => exact hw
  | turn d h => exact { hw with faces := ⟨d, rfl⟩ }
  | blocked d s h hs hblocked => exact hw
  | moved d s h hs hadmits =>
    have hsame := sameGame_arrive w s (s.cell.neighbour d)
    refine ⟨?_, ?_, ?_, ?_, ?_, ?_, ?_⟩
    · rw [hsame.width]
      exact hw.width_pos
    · rw [hsame.height]
      exact hw.height_pos
    · rw [hsame.blockSize]
      exact hw.blockSize
    · exact ⟨_, avatar?_arrive hs (Cell.neighbour_ne s.cell d).symm⟩
    · intro e he
      rw [inBounds_of_sameGame hsame]
      exact inBounds_of_mem_arrive hs hw.inside (inBounds_of_admits hadmits) he
    · exact ordered_arrive hs hw.ordered _
    · rw [orientation_arrive]
      exact hw.faces

theorem Sound.ticked (hw : Sound w) : Sound w.ticked :=
  ⟨hw.width_pos, hw.height_pos, hw.blockSize, hw.avatar, hw.inside, hw.ordered, hw.faces⟩

theorem Sound.expire (hw : Sound w) : Sound w.expire := by
  rw [expire_eq]
  exact ⟨hw.width_pos, hw.height_pos, hw.blockSize, hw.avatar, hw.inside, hw.ordered, hw.faces⟩

/-- A step of a sound world that goes on is an effect, and then the time may have run out. -/
theorem Sound.exists_effect (hw : Sound w) (h : w.ended = false) (a : Action) :
    ∃ v, Effect w.ticked a v ∧ w.advance a = v.expire := by
  obtain ⟨s, hs⟩ := hw.avatar
  exact exists_effect_of_not_ended hs h a

/-- **Soundness is kept.** -/
theorem Sound.advance (hw : Sound w) (a : Action) : Sound (w.advance a) := by
  cases h : w.ended with
  | true => rwa [advance_of_ended h]
  | false =>
    obtain ⟨v, hv, hadvance⟩ := hw.exists_effect h a
    rw [hadvance]
    exact (hw.ticked.effect hv).expire

theorem Sound.sameGame_advance (hw : Sound w) (a : Action) : SameGame w (w.advance a) := by
  cases h : w.ended with
  | true =>
    rw [advance_of_ended h]
    exact .refl w
  | false =>
    obtain ⟨v, hv, hadvance⟩ := hw.exists_effect h a
    rw [hadvance]
    exact ((sameGame_ticked w).trans hv.sameGame).trans (sameGame_expire v)

/-! ### Time -/

theorem Effect.tick_eq (h : Effect w a v) : v.tick = w.tick := by
  cases h with
  | use => rfl
  | turn d h => rfl
  | blocked d s h hs hblocked => rfl
  | moved d s h hs hadmits => exact tick_arrive w s _

/-- A step takes one unit of time. -/
theorem Sound.tick_advance (hw : Sound w) (h : w.ended = false) (a : Action) :
    (w.advance a).tick = w.tick + 1 := by
  obtain ⟨v, hv, hadvance⟩ := hw.exists_effect h a
  rw [hadvance, tick_expire, hv.tick_eq]
  rfl

/-- After a step, a world that goes on has time left. -/
theorem Sound.tick_lt_maxSteps (hw : Sound w) (hended : w.ended = false) (a : Action)
    (h : (w.advance a).ended = false) : ((w.advance a).tick : Int) < w.maxSteps := by
  obtain ⟨v, hv, hadvance⟩ := hw.exists_effect hended a
  have hmax : v.maxSteps = w.maxSteps := hv.sameGame.maxSteps
  rw [hadvance] at h ⊢
  unfold World.expire at h ⊢
  split at h
  · cases h
  · rename_i hlt
    rw [if_neg hlt, ← hmax]
    omega

end World

end PlayTrace
