import PlayTrace.Proofs.World.Step

/-!
# Sprites across a step

Where the sprites of a world are after a step, and how many of each key there are. Only a move
changes anything: the resources in the entered cell leave the world for the inventory, and the
avatar changes its cell. What leaves the world and what enters the inventory is counted alike, so
together they stay the same.

## Main results

* `World.entries_arrive` — the sprites after a move, in their old order
* `World.Effect.keyCount_add_held` — what leaves the world enters the inventory
* `World.Effect.keyCount_le`, `Effect.held_of_not_resource` — sprites never appear, and what is no
  resource is never collected
-/

namespace PlayTrace

namespace World

variable {w v : World} {a : Action} {s : Sprite} {c : Cell}

/-- The number of sprites of a key. -/
def keyCount (w : World) (key : String) : Nat := w.sprites.entries.countP fun e => e.2.key = key

/-- How often the avatar has collected a key. -/
def held (w : World) (key : String) : Nat := (w.inventory.get? key).getD 0

/-! ### Collecting -/

theorem entries_collect (w : World) (found : List (Int × Sprite)) :
    (w.collect found).sprites.entries =
      w.sprites.entries.filter fun e => !(found.map Prod.fst).contains e.1 := by
  induction found generalizing w with
  | nil => exact (List.filter_eq_self.2 fun _ _ => rfl).symm
  | cons e found ih =>
    refine (ih _).trans ?_
    change (w.sprites.entries.filter fun f => decide (f.1 ≠ e.1)).filter _ = _
    rw [List.filter_filter]
    apply List.filter_congr
    intro f _
    rw [List.map_cons, List.contains_cons, Bool.not_or]
    by_cases h : f.1 = e.1 <;> simp [h]

theorem held_collect (w : World) (found : List (Int × Sprite)) (key : String) :
    (w.collect found).held key = w.held key + found.countP fun e => e.2.key = key := by
  induction found generalizing w with
  | nil => rfl
  | cons e found ih =>
    refine (ih _).trans ?_
    rw [List.countP_cons]
    simp only [held, Table.get?_insert]
    by_cases h : key = e.2.key
    · simp [h]
      omega
    · have h' : ¬ e.2.key = key := fun hk => h hk.symm
      simp [h, h']

/-! ### Moving -/

/-- Whether a sprite is collected by an avatar that enters a cell. -/
def isLoot (w : World) (c : Cell) (e : Int × Sprite) : Bool :=
  decide (e.2.cell = c) && w.resources.contains e.2.key

theorem loot_eq_filter (w : World) (c : Cell) :
    w.loot c = w.sprites.entries.filter (w.isLoot c) := by
  rw [loot, spritesAt, List.filter_filter]
  exact List.filter_congr fun e _ => Bool.and_comm _ _

/-- A sprite, with the avatar put into another cell. -/
def relocate (w : World) (s : Sprite) (c : Cell) (e : Int × Sprite) : Int × Sprite :=
  if e.1 = w.avatarId then (w.avatarId, { s with cell := c }) else e

theorem fst_relocate (w : World) (s : Sprite) (c : Cell) (e : Int × Sprite) :
    (w.relocate s c e).1 = e.1 := by
  unfold relocate
  split
  · rename_i h
    exact h.symm
  · rfl

theorem mem_entries_of_avatar? (hs : w.avatar? = some s) : (w.avatarId, s) ∈ w.sprites.entries :=
  Table.get?_eq_some_iff.1 hs

/-- The entry of the avatar is the only one with its number. -/
theorem eq_avatar_of_fst (hs : w.avatar? = some s) {e : Int × Sprite} (he : e ∈ w.sprites.entries)
    (h : e.1 = w.avatarId) : e = (w.avatarId, s) :=
  Table.entry_ext he (mem_entries_of_avatar? hs) h

theorem key_relocate (hs : w.avatar? = some s) {e : Int × Sprite} (he : e ∈ w.sprites.entries) :
    (w.relocate s c e).2.key = e.2.key := by
  unfold relocate
  split
  · rename_i h
    rw [eq_avatar_of_fst hs he h]
  · rfl

theorem mem_loot_iff {e : Int × Sprite} (he : e ∈ w.sprites.entries) :
    ((w.loot c).map Prod.fst).contains e.1 = w.isLoot c e := by
  rw [Bool.eq_iff_iff, List.contains_iff_mem, loot_eq_filter, List.mem_map]
  constructor
  · rintro ⟨f, hf, hfe⟩
    obtain ⟨hmem, hloot⟩ := List.mem_filter.1 hf
    rw [← Table.entry_ext hmem he hfe]
    exact hloot
  · exact fun h => ⟨e, List.mem_filter.2 ⟨he, h⟩, rfl⟩

theorem sprites_arrive (w : World) (s : Sprite) (c : Cell) :
    (w.arrive s c).sprites =
      (collect { w with sprites := w.sprites.insert w.avatarId { s with cell := c } }
        (w.loot c)).sprites := by
  simp only [arrive]
  split <;> rfl

theorem inventory_arrive (w : World) (s : Sprite) (c : Cell) :
    (w.arrive s c).inventory =
      (collect { w with sprites := w.sprites.insert w.avatarId { s with cell := c } }
        (w.loot c)).inventory := by
  simp only [arrive]
  split <;> rfl

/-- **After a move.** The loot is gone, the avatar is in its new cell, and everything else is as it
was and where it was. -/
theorem entries_arrive (hs : w.avatar? = some s) (c : Cell) :
    (w.arrive s c).sprites.entries =
      (w.sprites.entries.filter fun e => !w.isLoot c e).map (w.relocate s c) := by
  have hkey : w.avatarId ∈ w.sprites.keys := Table.mem_keys_of_mem (mem_entries_of_avatar? hs)
  rw [sprites_arrive, entries_collect]
  change ((w.sprites.insert w.avatarId { s with cell := c }).entries.filter _) = _
  rw [Table.entries_insert_of_mem _ hkey]
  change ((w.sprites.entries.map (w.relocate s c)).filter _) = _
  rw [List.filter_map]
  congr 1
  apply List.filter_congr
  intro e he
  rw [Function.comp_apply, fst_relocate, mem_loot_iff he]

/-- What is no loot stays. -/
theorem mem_keys_arrive (hs : w.avatar? = some s) {e : Int × Sprite} (he : e ∈ w.sprites.entries)
    (h : w.isLoot c e = false) : e.1 ∈ (w.arrive s c).sprites.keys := by
  rw [Table.keys, entries_arrive hs, List.mem_map]
  refine ⟨w.relocate s c e, List.mem_map_of_mem (List.mem_filter.2 ⟨he, ?_⟩), fst_relocate w s c e⟩
  rw [h]
  rfl

/-- Every other sprite that is there after a move was there before, and it is no loot. -/
theorem mem_entries_of_mem_arrive (hs : w.avatar? = some s) {e : Int × Sprite}
    (he : e ∈ (w.arrive s c).sprites.entries) (hne : e.1 ≠ w.avatarId) :
    e ∈ w.sprites.entries ∧ w.isLoot c e = false := by
  rw [entries_arrive hs] at he
  obtain ⟨f, hf, rfl⟩ := List.mem_map.1 he
  obtain ⟨hmem, hkept⟩ := List.mem_filter.1 hf
  rw [fst_relocate] at hne
  rw [relocate, if_neg hne]
  exact ⟨hmem, by simpa using hkept⟩

/-! ### Counting -/

theorem keyCount_arrive (hs : w.avatar? = some s) (c : Cell) (key : String) :
    (w.arrive s c).keyCount key + (w.loot c).countP (fun e => e.2.key = key) = w.keyCount key := by
  have hmap : (w.arrive s c).keyCount key =
      (w.sprites.entries.filter fun e => !w.isLoot c e).countP fun e => e.2.key = key := by
    rw [keyCount, entries_arrive hs, List.countP_map]
    apply List.countP_congr
    intro e he
    rw [Function.comp_apply, key_relocate hs (List.mem_filter.1 he).1]
  rw [hmap, loot_eq_filter, Nat.add_comm, keyCount, ← List.countP_eq_countP_filter_add]

theorem held_arrive (w : World) (s : Sprite) (c : Cell) (key : String) :
    (w.arrive s c).held key = w.held key + (w.loot c).countP fun e => e.2.key = key := by
  rw [held, inventory_arrive]
  exact held_collect _ _ key

theorem keyCount_expire (w : World) (key : String) : w.expire.keyCount key = w.keyCount key := by
  rw [keyCount, keyCount, sprites_expire]

theorem held_expire (w : World) (key : String) : w.expire.held key = w.held key := by
  rw [held, held, inventory_expire]

/-- **What leaves the world enters the inventory.** -/
theorem Effect.keyCount_add_held (h : Effect w a v) (key : String) :
    v.keyCount key + v.held key = w.keyCount key + w.held key := by
  cases h with
  | use => rfl
  | turn d h => rfl
  | blocked d s h hs hblocked => rfl
  | moved d s h hs hadmits =>
    have hcount := keyCount_arrive hs (s.cell.neighbour d) key
    have hheld := held_arrive w s (s.cell.neighbour d) key
    omega

/-- Sprites never appear. -/
theorem Effect.keyCount_le (h : Effect w a v) (key : String) : v.keyCount key ≤ w.keyCount key := by
  cases h with
  | use => exact Nat.le_refl _
  | turn d h => exact Nat.le_refl _
  | blocked d s h hs hblocked => exact Nat.le_refl _
  | moved d s h hs hadmits =>
    have hcount := keyCount_arrive hs (s.cell.neighbour d) key
    omega

/-- What is no resource is never collected. -/
theorem Effect.held_of_not_resource (h : Effect w a v) {key : String} (hkey : key ∉ w.resources) :
    v.held key = w.held key := by
  cases h with
  | use => rfl
  | turn d h => rfl
  | blocked d s h hs hblocked => rfl
  | moved d s h hs hadmits =>
    have hnone : (w.loot (s.cell.neighbour d)).countP (fun e => e.2.key = key) = 0 := by
      rw [List.countP_eq_zero]
      intro e he hekey
      have hres := (List.mem_filter.1 he).2
      rw [of_decide_eq_true hekey, List.contains_iff_mem] at hres
      exact hkey hres
    rw [held_arrive, hnone, Nat.add_zero]

end World

end PlayTrace
