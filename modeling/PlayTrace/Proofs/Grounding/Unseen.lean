import PlayTrace.Proofs.Grid.Snapshot
import PlayTrace.Proofs.Grounding.Blocks
import PlayTrace.Proofs.Grounding.Totality
import PlayTrace.Proofs.Lists

/-!
# What grounding does not see

A state is made of less than a snapshot, an orientation and a count of resources hold. Of the keys
in a cell only those count that a domain has templates for, and each of them once, where it first
occurs. Of an orientation only the direction counts that it faces, and of a resource only whether
any of it was collected. Two situations that differ in nothing else have the same state, fact by
fact and in the same order.

The order is where this could fail: a key that is left out, or that is there twice, might move
another key to an earlier or later place, or bring the first mention of the avatar forward. It does
not, since leaving out keys and dropping repetitions commute.

## Main definitions

* `Domain.noticed` — the keys of a cell that count, in the order in which they count
* `Domain.LooksAlike` — two snapshots that differ in unnoticed keys only

## Main results

* `Domain.sitesOf_eq` — a cell becomes facts by the keys that are noticed
* `Domain.sites_eq_of_looksAlike` — snapshots that look alike have the same sites
* `Domain.groundState_unseen` — grounding sees nothing else
-/

namespace PlayTrace

namespace Domain

variable {D : Domain} {mode : Mode} {s s' : Snapshot} {o o' : Orientation}
  {picked picked' : String → Int}

/-- The keys of a cell that a domain has templates for, each once, in the order in which they first
occur. -/
def noticed (D : Domain) (keys : List String) : List String :=
  (keys.filter fun k => D.templatesOf k ≠ []).eraseDups

/-- Two snapshots of the same size in whose cells the same keys are noticed. -/
structure LooksAlike (D : Domain) (s s' : Snapshot) : Prop where
  width : s.width = s'.width
  height : s.height = s'.height
  noticed : ∀ c ∈ s.cells, ∃ keys keys', s.keysAt c = .ok keys ∧ s'.keysAt c = .ok keys' ∧
    D.noticed keys = D.noticed keys'

/-! ### Noticed keys -/

/-- A key without templates may stand anywhere among the others. -/
theorem noticed_insert_of_templatesOf_eq_nil {key : String} (h : D.templatesOf key = [])
    (before after : List String) :
    D.noticed (before ++ key :: after) = D.noticed (before ++ after) := by
  simp [noticed, h]

/-- A key that has occurred may occur again anywhere later. -/
theorem noticed_insert_of_mem {key : String} {before : List String} (h : key ∈ before)
    (after : List String) :
    D.noticed (before ++ key :: after) = D.noticed (before ++ after) := by
  have hrepeated : (before ++ key :: after).eraseDups = (before ++ after).eraseDups := by
    simp [List.eraseDups_append, List.removeAll, h]
  rw [noticed, noticed, eraseDups_filter, eraseDups_filter, hrepeated]

/-- A cell becomes facts by the keys that are noticed. -/
theorem sitesOf_eq (D : Domain) (c : Cell) (keys : List String) :
    D.sitesOf c keys =
      (D.noticed keys).flatMap fun k => (D.templatesOf k).map fun t => ⟨c, t⟩ := by
  rw [sitesOf, noticed, eraseDups_filter]
  induction keys.eraseDups with
  | nil => rfl
  | cons k ks ih =>
    by_cases h : D.templatesOf k = []
    · rw [List.flatMap_cons, ih, List.filter_cons_of_neg (by simp [h]), h]
      rfl
    · rw [List.flatMap_cons, ih, List.filter_cons_of_pos (by simp [h]), List.flatMap_cons]

theorem sites_eq_of_looksAlike (h : D.LooksAlike s s') : D.sites s = D.sites s' := by
  have hcells : s'.cells = s.cells := by rw [Snapshot.cells, Snapshot.cells, h.width, h.height]
  have hkeys : ∀ c ∈ s.cells, D.sitesOf c (s.keysIn c) = D.sitesOf c (s'.keysIn c) := by
    intro c hc
    obtain ⟨keys, keys', hkeys, hkeys', heq⟩ := h.noticed c hc
    rw [Snapshot.keysAt_of_mem_cells hc, Except.ok.injEq] at hkeys
    rw [Snapshot.keysAt_of_mem_cells (hcells ▸ hc), Except.ok.injEq] at hkeys'
    rw [sitesOf_eq, sitesOf_eq, hkeys, hkeys', heq]
  rw [sites_eq s.rowMajor_eq, sites_eq s'.rowMajor_eq, hcells, List.flatMap_def, List.flatMap_def,
    List.map_congr_left hkeys]

/-! ### Orientations and resources -/

theorem spriteFacts_congr (h : o.facing? = o'.facing?) (sites : List Site) :
    D.spriteFacts mode o sites = D.spriteFacts mode o' sites := by
  have hfacing : D.facingFacts o = D.facingFacts o' := by rw [facingFacts, facingFacts, h]
  induction sites with
  | nil => rfl
  | cons site rest ih => rw [spriteFacts, spriteFacts, ih, hfacing]

theorem collectedFacts_congr (h : ∀ key ∈ D.pickups.keys, 0 < picked key ↔ 0 < picked' key) :
    D.collectedFacts picked = D.collectedFacts picked' := by
  rw [collectedFacts, collectedFacts]
  refine congrArg _ (List.filter_congr fun e he => ?_)
  rw [decide_eq_decide]
  exact h e.1 (Table.mem_keys_of_mem he)

/-- **What grounding does not see.** Two snapshots that look alike to a domain, seen by an avatar
that faces the same direction and has collected some of the same resources, have the same state. So
keys without templates, repeated keys, lengths of vectors, amounts, and counts of resources that the
domain does not record never show in a state. -/
theorem groundState_unseen (D : Domain) (mode : Mode) (g : Connectivity) :
    (∀ s s' o o' picked picked', D.LooksAlike s s' → o.facing? = o'.facing? →
      (∀ key ∈ D.pickups.keys, 0 < picked key ↔ 0 < picked' key) →
      ∃ facts, D.groundState mode g s o picked = .ok facts ∧
        D.groundState mode g s' o' picked' = .ok facts) ∧
    (∀ key before after, D.templatesOf key = [] ∨ key ∈ before →
      D.noticed (before ++ key :: after) = D.noticed (before ++ after)) := by
  refine ⟨fun s s' o o' picked picked' halike hfacing hpicked => ?_, fun key before after h => ?_⟩
  · refine ⟨D.stateFacts mode g s o picked, D.groundState_eq mode g s o picked, ?_⟩
    rw [groundState_eq, stateFacts, stateFacts, sites_eq_of_looksAlike halike,
      spriteFacts_congr hfacing, collectedFacts_congr hpicked]
  · rcases h with h | h
    · exact noticed_insert_of_templatesOf_eq_nil h before after
    · exact noticed_insert_of_mem h after

/-- A grid of one cell. -/
def singleCell (keys : List String) (h : keys ≠ []) : Snapshot where
  width := 1
  height := 1
  columns := [[keys]]
  width_pos := Nat.one_pos
  height_pos := Nat.one_pos
  length_columns := rfl
  length_column := by simp
  cell_ne_nil := by simpa using h

/-- A ghost and the avatar among strangers. -/
def crowdedCell : Snapshot :=
  singleCell ["stranger", "ghost", "ghost", "avatar", "ghost"] (by decide)

/-- A ghost, the avatar, and somebody who leaves. -/
def quietCell : Snapshot := singleCell ["ghost", "avatar", "passer-by"] (by decide)

/-- In the crowd three of everything were collected, alone one ghost, and the avatar looks to the
right both times, though along different vectors. -/
theorem groundState_compass_unseen :
    compassDomain.LooksAlike crowdedCell quietCell ∧
      ∃ facts,
        compassDomain.groundState .numeric ⟨[], [], []⟩ crowdedCell ⟨1, .undefined⟩
          (fun _ => 3) = .ok facts ∧
        compassDomain.groundState .numeric ⟨[], [], []⟩ quietCell ⟨1, .ofInt (-1)⟩
          (fun key => if key = "ghost" then 1 else -2) = .ok facts := by
  have halike : compassDomain.LooksAlike crowdedCell quietCell := by
    refine ⟨rfl, rfl, fun c hc => ?_⟩
    obtain rfl : c = ⟨0, 0⟩ := List.mem_singleton.1 hc
    exact ⟨_, _, rfl, rfl, by decide⟩
  exact ⟨halike, (groundState_unseen compassDomain .numeric ⟨[], [], []⟩).1 _ _ _ _ _ _ halike
    (by decide) (by decide)⟩

end Domain

end PlayTrace
