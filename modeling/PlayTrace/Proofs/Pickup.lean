import PlayTrace.Proofs.Agent

/-!
# What a move collected

The agent does not see what a move collects. It works it out: it sorts the resources of the world by
their distance from the cell that the move goes to, and takes the first one at distance zero whose
count has fallen. Under exact arithmetic these are the resources in that cell, and because sorting
is stable they keep the order of their numbers. So the agent's answer can be given without
distances: the first resource in the cell, in the order of numbers, whose count has fallen.

In the world, a move that succeeds takes all resources out of the cell. Hence the agent's answer is
the key of the first sprite that has left the world and is counted.

## Main definitions

* `World.removed` — the sprites that have left a world

## Main results

* `filter_mergeSort` — elements that are all alike keep their order
* `World.Sound.removed_advance` — what leaves in a step
* `Agent.pickedResource_exact` — the agent's answer, without distances
* `Agent.pickedResource_eq_removed` — the agent's answer and the sprites that have left
-/

namespace PlayTrace

/-- Sorting keeps the order of elements that are all alike. -/
theorem filter_mergeSort {α : Type} {le : α → α → Bool} {p : α → Bool}
    (trans : ∀ a b c, le a b = true → le b c = true → le a c = true)
    (total : ∀ a b, (le a b || le b a) = true)
    (alike : ∀ a b, p a = true → p b = true → le a b = true)
    (l : List α) : (l.mergeSort le).filter p = l.filter p := by
  have hpairwise : (l.filter p).Pairwise fun a b => le a b = true := by
    exact List.pairwise_filter.2 (List.pairwise_of_forall fun a b ha hb => alike a b ha hb)
  have hsublist : (l.filter p).Sublist ((l.mergeSort le).filter p) := by
    have hsorted := (List.sublist_mergeSort trans total hpairwise List.filter_sublist).filter p
    simp only [List.filter_filter, Bool.and_self] at hsorted
    exact hsorted
  exact (hsublist.eq_of_length ((List.mergeSort_perm l le).filter p).length_eq.symm).symm

namespace World

variable {w v : World}

/-! ### Resources by distance -/

/-- A resource with its distance from a cell, under exact arithmetic. -/
def resourceFrom (c : Cell) (e : Int × Sprite) : Resource :=
  ⟨e.2.key, ⟨.finite ((e.2.cell.x * defaultBlockSize : Int) : Rat),
    .finite ((e.2.cell.y * defaultBlockSize : Int) : Rat)⟩,
    .finite (Position.offset defaultBlockSize e.2.cell c)⟩

/-- Whether one sprite is at most as far from a cell as another. -/
def nearer (c : Cell) (e f : Int × Sprite) : Bool :=
  decide (Position.offset defaultBlockSize e.2.cell c ≤ Position.offset defaultBlockSize f.2.cell c)

/-- The resources of a world, in the order of their numbers. -/
def resourceEntries (w : World) : List (Int × Sprite) :=
  w.sprites.entries.filter fun e => w.resources.contains e.2.key

theorem below_resourceFrom (c : Cell) (e f : Int × Sprite) :
    nearer c e f =
      !(resourceFrom c f).squaredDistance.below (resourceFrom c e).squaredDistance := by
  have hbelow : (resourceFrom c f).squaredDistance.below (resourceFrom c e).squaredDistance =
      decide (Position.offset defaultBlockSize f.2.cell c <
        Position.offset defaultBlockSize e.2.cell c) := rfl
  rw [hbelow, nearer, ← decide_not]
  exact decide_eq_decide.2 not_lt.symm

theorem isZero_resourceFrom (c : Cell) (e : Int × Sprite) :
    (resourceFrom c e).squaredDistance.isZero = decide (e.2.cell = c) := by
  have hblock : defaultBlockSize ≠ 0 := by decide
  have hzero := Position.offset_eq_zero_iff hblock e.2.cell c
  rw [Bool.eq_iff_iff, decide_eq_true_iff, ← hzero]
  simp [resourceFrom, Number.isZero, Number.toRat?]

theorem Sound.resourcesFrom_exact (hw : Sound w) (hexact : w.precision = .exact) (c : Cell) :
    (w.positionOf c >>= fun p => w.resourcesFrom (some p)) =
      .ok ((w.resourceEntries.mergeSort (nearer c)).map (resourceFrom c)) := by
  have hposition : ∀ d, w.positionOf d =
      .ok ⟨.finite ((d.x * defaultBlockSize : Int) : Rat),
        .finite ((d.y * defaultBlockSize : Int) : Rat)⟩ := by
    intro d
    rw [positionOf, hexact, hw.blockSize, Position.ofCell_exact]
  rw [hposition, ok_bind, resourcesFrom, hw.ordered_eq]
  simp only [pure_bind]
  rw [mapM_eq_ok_map (g := resourceFrom c), ok_bind]
  · have hsort := List.map_mergeSort (r := nearer c) (f := resourceFrom c) (l := w.resourceEntries)
      (s := fun a b => !b.squaredDistance.below a.squaredDistance)
      fun e _ f _ => below_resourceFrom c e f
    rw [hsort]
    rfl
  · intro e _
    rw [hposition, ok_bind, hexact, Position.squaredDistance_exact]
    rfl

/-- Among the resources by distance, the first one at distance zero is the first one in the cell. -/
theorem find?_mergeSort_nearer (c : Cell) (q : Int × Sprite → Bool) (l : List (Int × Sprite)) :
    ((l.mergeSort (nearer c)).find? fun e => decide (e.2.cell = c) && q e) =
      l.find? fun e => decide (e.2.cell = c) && q e := by
  have htrans : ∀ e f g, nearer c e f = true → nearer c f g = true → nearer c e g = true :=
    fun e f g hef hfg => decide_eq_true ((of_decide_eq_true hef).trans (of_decide_eq_true hfg))
  have htotal : ∀ e f, (nearer c e f || nearer c f e) = true := fun e f => by
    simpa [nearer] using le_total _ _
  have halike : ∀ e f : Int × Sprite, (decide (e.2.cell = c) && q e) = true →
      (decide (f.2.cell = c) && q f) = true → nearer c e f = true := by
    intro e f he hf
    have hec := of_decide_eq_true (Bool.and_eq_true_iff.1 he).1
    have hfc := of_decide_eq_true (Bool.and_eq_true_iff.1 hf).1
    rw [nearer, hec, hfc]
    exact decide_eq_true le_rfl
  rw [← List.head?_filter, ← List.head?_filter, filter_mergeSort htrans htotal halike]

/-! ### Sprites that have left -/

/-- The sprites of a world that are not in another, in the order of their numbers. -/
def removed (w v : World) : List (Int × Sprite) :=
  w.sprites.entries.filter fun e => !v.sprites.contains e.1

theorem removed_of_sprites_eq (h : v.sprites = w.sprites) : w.removed v = [] := by
  rw [removed, List.filter_eq_nil_iff]
  intro e he
  rw [h, Bool.not_eq_true, Bool.not_eq_false', Table.contains_iff]
  exact Table.mem_keys_of_mem he

/-- What a move takes out of the world are the resources in the cell. -/
theorem removed_arrive {s : Sprite} (hs : w.avatar? = some s) (c : Cell) :
    w.removed (w.arrive s c) = w.sprites.entries.filter (w.isLoot c) := by
  apply List.filter_congr
  intro e he
  rw [Bool.eq_iff_iff, Bool.not_eq_true', ← Bool.not_eq_true, Table.contains_iff]
  constructor
  · intro hnot
    by_contra hloot
    exact hnot (mem_keys_arrive hs he (Bool.eq_false_iff.2 hloot))
  · intro hloot hkey
    rw [Table.keys, entries_arrive hs, List.mem_map] at hkey
    obtain ⟨f, hf, hfe⟩ := hkey
    obtain ⟨e', he', rfl⟩ := List.mem_map.1 hf
    obtain ⟨hmem, hkept⟩ := List.mem_filter.1 he'
    rw [fst_relocate] at hfe
    rw [Table.entry_ext hmem he hfe, hloot] at hkept
    cases hkept

/-- In a step no sprite leaves the world, or the resources in the cell that the avatar enters do. -/
theorem Sound.removed_advance (hw : Sound w) {s : Sprite} (hs : w.avatar? = some s)
    (d : Direction) :
    (w.advance (.move d)).sprites = w.sprites ∨
      w.removed (w.advance (.move d)) = w.sprites.entries.filter (w.isLoot (s.cell.neighbour d)) ∧
      ∀ key, (w.advance (.move d)).keyCount key +
        (w.removed (w.advance (.move d))).countP (fun e => e.2.key = key) = w.keyCount key := by
  cases hended : w.ended with
  | true =>
    rw [advance_of_ended hended]
    exact .inl rfl
  | false =>
    obtain ⟨v, hv, hadvance⟩ := hw.exists_effect hended (.move d)
    rw [hadvance, sprites_expire]
    cases hv with
    | turn d h => exact .inl rfl
    | blocked d t h ht hblocked => exact .inl rfl
    | moved d t h ht hadmits =>
      obtain rfl : s = t := Option.some.inj (hs.symm.trans ht)
      have hremoved : w.removed (w.ticked.arrive s (s.cell.neighbour d)).expire =
          w.sprites.entries.filter (w.isLoot (s.cell.neighbour d)) := by
        rw [removed, sprites_expire]
        exact removed_arrive ht _
      refine .inr ⟨hremoved, ?_⟩
      intro key
      rw [hremoved, keyCount_expire]
      have hcount := keyCount_arrive ht (s.cell.neighbour d) key
      rw [loot_eq_filter] at hcount
      exact hcount

/-- Of what has left there is less than before. -/
theorem Sound.keyCount_lt_of_mem_removed (hw : Sound w) {s : Sprite} (hs : w.avatar? = some s)
    {d : Direction} {e : Int × Sprite} (he : e ∈ w.removed (w.advance (.move d))) :
    (w.advance (.move d)).keyCount e.2.key < w.keyCount e.2.key := by
  rcases hw.removed_advance hs d with hsame | ⟨-, hcount⟩
  · rw [removed_of_sprites_eq hsame] at he
    cases he
  · have hleft : 0 < (w.removed (w.advance (.move d))).countP fun f => f.2.key = e.2.key := by
      rw [List.countP_pos_iff]
      exact ⟨e, he, decide_eq_true rfl⟩
    have hsum := hcount e.2.key
    omega

end World

namespace Agent

open World

variable {w v : World} {l : Ledger}

/-! ### The agent's answer -/

/-- A table of zeros has no positive value. -/
theorem not_pos_of_all_zero {t : Table String Nat} (h : t.values.all (· == 0) = true)
    (key : String) : (t.get? key).getD 0 = 0 := by
  cases hkey : t.get? key with
  | none => rfl
  | some n =>
    have hmem : n ∈ t.values := List.mem_map.2 ⟨(key, n), Table.get?_eq_some_iff.1 hkey, rfl⟩
    simpa using List.all_eq_true.1 h n hmem

/-- **The agent's answer, without distances.** -/
theorem pickedResource_exact (hw : Sound w) (hexact : w.precision = .exact) (d : Direction)
    (source : Cell) (deltas : Table String Nat) :
    pickedResource w (.move d) source deltas =
      .ok ((w.resourceEntries.find? fun e => decide (e.2.cell = source.neighbour d) &&
        decide (0 < (deltas.get? e.2.key).getD 0)).map fun e => e.2.key) := by
  simp only [pickedResource]
  split
  · rename_i hzero
    have hnone : (w.resourceEntries.find? fun e => decide (e.2.cell = source.neighbour d) &&
        decide (0 < (deltas.get? e.2.key).getD 0)) = none := by
      rw [List.find?_eq_none]
      intro e _
      rw [not_pos_of_all_zero hzero]
      simp
    rw [hnone]
    rfl
  · have hresources := hw.resourcesFrom_exact hexact (source.neighbour d)
    have hpredicate : (fun r : Resource =>
        r.squaredDistance.isZero && decide (0 < (deltas.get? r.key).getD 0)) ∘
          resourceFrom (source.neighbour d) =
        fun e => decide (e.2.cell = source.neighbour d) &&
          decide (0 < (deltas.get? e.2.key).getD 0) := by
      funext e
      rw [Function.comp_apply, isZero_resourceFrom]
      rfl
    rw [← bind_assoc, hresources, ok_bind, List.find?_map, hpredicate, find?_mergeSort_nearer,
      Option.map_map]
    rfl

/-- What is taken of a key that is counted is what has left the world. -/
theorem get?_takings (hw : Sound w) (a : Action) (hnodup : l.keys.Nodup)
    (hback : backgroundKey ∉ l.keys) (key : String) :
    ((takings l hw a).get? key).getD 0 =
      if key ∈ l.keys then w.keyCount key - (w.advance a).keyCount key else 0 := by
  rw [takings, Ledger.get?_deltas hnodup]
  split
  · rename_i hmem
    have hkey : key ≠ backgroundKey := fun h => hback (h ▸ hmem)
    rw [Option.getD_some, Ledger.collected, hw.count_picture hkey,
      (hw.advance a).count_picture hkey]
  · rfl

/-- The resources in the cell of which something was taken are the sprites that have left, as far as
they are counted. -/
theorem filter_taken (hw : Sound w) {s : Sprite} (hs : w.avatar? = some s) (d : Direction)
    (keys : List String) :
    (w.resourceEntries.filter fun e => decide (e.2.cell = s.cell.neighbour d) &&
      decide (0 < if e.2.key ∈ keys
        then w.keyCount e.2.key - (w.advance (.move d)).keyCount e.2.key else 0)) =
      (w.removed (w.advance (.move d))).filter fun e => keys.contains e.2.key := by
  rcases hw.removed_advance hs d with hsame | ⟨hremoved, -⟩
  · have hkeep : ∀ key, (w.advance (.move d)).keyCount key = w.keyCount key := by
      intro key
      rw [keyCount, hsame]
      rfl
    simp [removed_of_sprites_eq hsame, hkeep]
  · rw [resourceEntries, List.filter_filter, hremoved, List.filter_filter]
    apply List.filter_congr
    intro e he
    rw [Bool.eq_iff_iff]
    constructor
    · intro h
      simp only [Bool.and_eq_true, decide_eq_true_eq] at h
      obtain ⟨⟨hcell, htaken⟩, hres⟩ := h
      split at htaken
      · rename_i hmem
        simp only [isLoot, hcell, hres, decide_true, Bool.and_true, List.contains_iff_mem]
        exact hmem
      · cases htaken
    · intro h
      obtain ⟨hmem, hloot⟩ := Bool.and_eq_true_iff.1 h
      rw [List.contains_iff_mem] at hmem
      obtain ⟨hcell, hres⟩ := Bool.and_eq_true_iff.1 hloot
      have hleft : e ∈ w.removed (w.advance (.move d)) := by
        rw [hremoved]
        exact List.mem_filter.2 ⟨he, hloot⟩
      have hpos := Nat.sub_pos_of_lt (hw.keyCount_lt_of_mem_removed hs hleft)
      rw [hcell, hres, if_pos hmem, decide_eq_true hpos]
      rfl

/-- **The agent's answer** is the key of the first sprite that has left and is counted. -/
theorem pickedResource_eq_removed (hw : Sound w) (hexact : w.precision = .exact) {s : Sprite}
    (hs : w.avatar? = some s) (d : Direction) (hnodup : l.keys.Nodup)
    (hback : backgroundKey ∉ l.keys) :
    pickedResource w (.move d) s.cell (takings l hw (.move d)) =
      .ok (((w.removed (w.advance (.move d))).find? fun e => l.keys.contains e.2.key).map
        fun e => e.2.key) := by
  rw [pickedResource_exact hw hexact]
  simp only [get?_takings hw _ hnodup hback]
  rw [← List.head?_filter, ← List.head?_filter, filter_taken hw hs]

end Agent

end PlayTrace
