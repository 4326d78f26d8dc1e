import Mathlib.Data.List.Basic
import PlayTrace.Proofs.Grid.Snapshot
import PlayTrace.Proofs.Grounding.Reading

/-!
# The blocks of a state

A state is one flat list of facts, but it is made cell by cell. What a cell contributes is its
block: a fact for each template of its distinct keys. The blocks follow one another row by row, and
only what is said about where the avatar looks may stand in between; then come the facts about
collected resources and the connectivity. A block depends on the keys in its cell and on nothing
else.

## Main definitions

* `Domain.blockOf` — what a cell contributes to a state
* `Domain.ComposedOf` — a state as blocks, facts about resources, and connectivity

## Main results

* `Domain.composedOf_stateFacts` — every state is composed in this way
* `Domain.collectedFacts_sublist` — whoever has collected more, has more facts about it
-/

namespace PlayTrace

namespace Domain

variable {D : Domain} {mode : Mode} {g : Connectivity} {s : Snapshot} {o : Orientation}
  {picked picked' : String → Int}

/-- What a cell with the given keys contributes to a state. -/
def blockOf (D : Domain) (mode : Mode) (c : Cell) (keys : List String) :
    Except Fault (List Fact) :=
  (D.sitesOf c keys).mapM (D.siteFact mode)

/-- A state is composed of the blocks of its cells, of facts about collected resources, and of
connectivity. -/
structure ComposedOf (D : Domain) (mode : Mode) (g : Connectivity) (s : Snapshot) (o : Orientation)
    (picked : String → Int) (blocks : Cell → List Fact) (pickups facts : List Fact) : Prop where
  block : ∀ c ∈ s.cells, ∃ keys, s.keysAt c = .ok keys ∧ D.blockOf mode c keys = .ok (blocks c)
  pickups_eq : D.pickupFacts picked = .ok pickups
  /-- the blocks come row by row; where the avatar looks is said among them, or not at all -/
  facts_eq : ∃ before facing after, before ++ after = s.cells.flatMap blocks ∧
    (facing = [] ∨ D.orientationFacts o = .ok facing) ∧
    facts = before ++ facing ++ after ++ pickups ++ connectivityFacts mode g

/-! ### Blocks -/

/-- The block of a cell. -/
def block (D : Domain) (mode : Mode) (c : Cell) (keys : List String) : List Fact :=
  (D.sitesOf c keys).map (D.factAt mode)

theorem blockOf_eq (D : Domain) (mode : Mode) (c : Cell) (keys : List String) :
    D.blockOf mode c keys = .ok (D.block mode c keys) := by
  refine mapM_eq_ok_map fun site hsite => siteFact_eq fun v hv => ?_
  obtain ⟨key, -, hkey⟩ := List.mem_flatMap.1 hsite
  obtain ⟨t, ht, rfl⟩ := List.mem_map.1 hkey
  exact declared_of_mem_templatesOf ht hv

/-! ### Sprites -/

/-- The facts at sites are those of the sites, with what is said about the orientation somewhere in
between. -/
theorem exists_spriteFacts_eq (D : Domain) (mode : Mode) (o : Orientation) (sites : List Site) :
    ∃ before facing after, before ++ after = sites.map (D.factAt mode) ∧
      (facing = [] ∨ facing = D.facingFacts o) ∧
      D.spriteFacts mode o sites = before ++ facing ++ after := by
  induction sites with
  | nil => exact ⟨[], [], [], rfl, .inl rfl, rfl⟩
  | cons site rest ih =>
    rw [spriteFacts]
    split
    · exact ⟨[], D.facingFacts o, (site :: rest).map (D.factAt mode), rfl, .inr rfl, rfl⟩
    · obtain ⟨before, facing, after, hfacts, hfacing, heq⟩ := ih
      refine ⟨D.factAt mode site :: before, facing, after, ?_, hfacing, ?_⟩
      · rw [List.map_cons, ← hfacts]
        rfl
      · rw [heq]
        rfl

/-- Where the avatar looks is said with a template that is filled. -/
theorem exists_fill_of_mem_facingFacts {f : Fact} (h : f ∈ D.facingFacts o) :
    ∃ t : Template, .plain (t.fill D.avatarFill) = f := by
  unfold facingFacts at h
  split at h
  · rw [Option.mem_toList, Option.map_eq_some_iff] at h
    obtain ⟨t, -, ht⟩ := h
    exact ⟨t, ht⟩
  · cases h

/-- A fact among those at sites is that of a site, or says where the avatar looks. -/
theorem eq_factAt_or_mem_facingFacts {mode : Mode} {o : Orientation} {sites : List Site} {f : Fact}
    (h : f ∈ D.spriteFacts mode o sites) :
    (∃ site ∈ sites, D.factAt mode site = f) ∨ f ∈ D.facingFacts o := by
  obtain ⟨before, facing, after, hfacts, hfacing, heq⟩ := D.exists_spriteFacts_eq mode o sites
  rw [heq, List.mem_append, List.mem_append, or_right_comm, ← List.mem_append, hfacts,
    List.mem_map] at h
  refine h.imp_right fun hf => ?_
  rcases hfacing with rfl | rfl
  · cases hf
  · exact hf

theorem sites_eq {shown : Cell → List String}
    (hshown : s.rowMajor = s.cells.map fun c => (c, shown c)) :
    D.sites s = s.cells.flatMap fun c => D.sitesOf c (shown c) := by
  rw [sites, hshown, List.flatMap_map]

theorem mem_sites_iff {site : Site} :
    site ∈ D.sites s ↔
      ∃ c ∈ s.cells, ∃ key ∈ s.keysIn c, ∃ t ∈ D.templatesOf key, ⟨c, t⟩ = site := by
  rw [sites_eq s.rowMajor_eq]
  simp only [sitesOf, List.mem_flatMap, List.mem_map, List.mem_eraseDups]

/-- **Every state is composed of blocks.** -/
theorem composedOf_stateFacts {shown : Cell → List String}
    (hshown : s.rowMajor = s.cells.map fun c => (c, shown c))
    (hkeys : ∀ c ∈ s.cells, s.keysAt c = .ok (shown c)) :
    D.ComposedOf mode g s o picked (fun c => D.block mode c (shown c)) (D.collectedFacts picked)
      (D.stateFacts mode g s o picked) where
  block c hc := ⟨shown c, hkeys c hc, D.blockOf_eq mode c (shown c)⟩
  pickups_eq := D.pickupFacts_eq picked
  facts_eq := by
    obtain ⟨before, facing, after, hfacts, hfacing, heq⟩ :=
      D.exists_spriteFacts_eq mode o (D.sites s)
    refine ⟨before, facing, after, ?_, ?_, ?_⟩
    · rw [hfacts, sites_eq hshown, List.map_flatMap]
      rfl
    · rw [orientationFacts_eq]
      exact hfacing.imp_right fun h => congrArg _ h.symm
    · rw [stateFacts, heq]

/-! ### Collected resources -/

/-- Whoever has collected more, has more facts about it. -/
theorem collectedFacts_sublist (h : ∀ key, 0 < picked key → 0 < picked' key) :
    (D.collectedFacts picked).Sublist (D.collectedFacts picked') := by
  refine List.Sublist.map _ (List.monotone_filter_right _ fun e he => ?_)
  exact decide_eq_true (h e.1 (of_decide_eq_true he))

/-- What is said about all resources, in the order of the domain. -/
theorem exists_collectedFacts_sublist (D : Domain) :
    ∃ atoms, (D.pickups.values.mapM fun t => t.instantiate D.avatarBinding) = .ok atoms ∧
      ∀ picked, (D.collectedFacts picked).Sublist (atoms.map .plain) := by
  refine ⟨D.pickups.values.map fun t => t.fill D.avatarFill, mapM_eq_ok_map fun t ht => ?_,
    fun picked => ?_⟩
  · obtain ⟨e, he, rfl⟩ := List.mem_map.1 ht
    exact instantiate_avatarBinding_eq fun v hv => eq_avatar_of_mem_pickups he hv
  · rw [Table.values, List.map_map, List.map_map]
    exact List.filter_sublist.map _

end Domain

end PlayTrace
