import PlayTrace.Proofs.Grounding.Links
import PlayTrace.Proofs.Grounding.Reading
import PlayTrace.Proofs.Lists
import PlayTrace.Proofs.Naming

/-!
# The atoms of connectivity

An atom of connectivity names the two cells of its link and no other object. So two links with the
same atom have the same two cells: they are one link, or each other's reverse. In the second case
the templates of the two directions put the cell variable where the other has its neighbour, and
agree in all else; and if they do, every link and its reverse share an atom.

This settles which links bring an atom of their own: all of them, unless the domain writes two
opposite directions alike, and then those that lead down and right.

## Main definitions

* `Domain.Joins`, `Domain.IsConnection` — the atom of a link, as the domain's template gives it
* `Domain.Mirrored` — a domain writes a direction and its opposite alike

## Main results

* `Domain.connectionAtom_eq_iff` — which links have the same atom
* `Domain.atoms_connectivityOf` — the links that bring the atoms of a grid, in order
* `Connectivity.exists_build_eq_ok_atoms` — what the atoms of a grid are, and how many
-/

namespace PlayTrace

/-! ### Mirror images -/

/-- At a position of two templates stands the same literal, or the cell variable in one and another
variable in the other. -/
def Token.Mirrors (cell : String) : Token → Token → Prop
  | .literal s, .literal t => s = t
  | .placeholder v, .placeholder w => v = cell ∧ w ≠ cell ∨ v ≠ cell ∧ w = cell
  | .literal _, .placeholder _ => False
  | .placeholder _, .literal _ => False

instance (cell : String) : (a b : Token) → Decidable (a.Mirrors cell b)
  | .literal s, .literal t => inferInstanceAs (Decidable (s = t))
  | .placeholder v, .placeholder w =>
    inferInstanceAs (Decidable (v = cell ∧ w ≠ cell ∨ v ≠ cell ∧ w = cell))
  | .literal _, .placeholder _ => .isFalse id
  | .placeholder _, .literal _ => .isFalse id

/-- Two templates are mirror images: they have the same name and are mirror images at every
position. -/
structure Template.Mirrors (cell : String) (t u : Template) : Prop where
  name : t.name = u.name
  tokens : List.Forall₂ (Token.Mirrors cell) t.tokens u.tokens

instance (cell : String) (t u : Template) : Decidable (t.Mirrors cell u) :=
  decidable_of_iff (t.name = u.name ∧ List.Forall₂ (Token.Mirrors cell) t.tokens u.tokens)
    ⟨fun h => ⟨h.1, h.2⟩, fun h => ⟨h.name, h.tokens⟩⟩

namespace Domain

variable (D : Domain)

/-- The connection of a direction becomes an atom when the cell variable stands for `source` and any
other variable for `target`. -/
def Joins (d : Direction) (source target : Argument) (a : Atom) : Prop :=
  ∃ t, D.connections.get? d = some t ∧
    t.instantiate (fun v => some (if v = D.cell then source else target)) = .ok a

/-- The atom of a link: its direction's connection of the cell it leaves with the cell it leads
to. -/
def IsConnection (l : Link) (a : Atom) : Prop :=
  ∃ source target, D.cellObject l.source = .ok source ∧ D.cellObject l.target = .ok target ∧
    D.Joins l.direction (.object source) (.object target) a

/-- The templates of a direction and its opposite are mirror images. -/
def Mirrored (d : Direction) : Prop :=
  ∃ t u, D.connections.get? d = some t ∧ D.connections.get? d.opposite = some u ∧
    t.Mirrors D.cell u

variable {D}

theorem mirrored_iff {d : Direction} :
    D.Mirrored d ↔ (D.connectionTemplate d).Mirrors D.cell (D.connectionTemplate d.opposite) := by
  obtain ⟨t, ht, -⟩ := D.exists_connection d
  obtain ⟨u, hu, -⟩ := D.exists_connection d.opposite
  simp [Mirrored, connectionTemplate, ht, hu]

instance (d : Direction) : Decidable (D.Mirrored d) := decidable_of_iff _ mirrored_iff.symm

variable {l l' : Link} {s : Snapshot}

theorem joins_iff {a : Atom} :
    D.Joins l.direction (.object (D.theCell l.source)) (.object (D.theCell l.target)) a ↔
      a = D.connectionAtom l := by
  obtain ⟨t, ht, -⟩ := D.exists_connection l.direction
  have hatom : t.instantiate (fun v => some
      (if v = D.cell then .object (D.theCell l.source) else .object (D.theCell l.target))) =
        .ok (D.connectionAtom l) := by
    rw [connectionAtom, connectionTemplate, ht]
    refine Template.instantiate_eq fun v _ => ?_
    rw [linkFill]
    split <;> rfl
  simp [Joins, ht, hatom, eq_comm]

theorem isConnection_iff {a : Atom} : D.IsConnection l a ↔ a = D.connectionAtom l := by
  simp [IsConnection, cellObject_eq, joins_iff]

/-! ### The cells that an atom names -/

theorem theCell_inj {c c' : Cell} : D.theCell c = D.theCell c' ↔ c = c' := by
  constructor
  · intro h
    obtain ⟨-, hx, hy⟩ := Object.name_atCell_inj.1 (congrArg Object.name h)
    obtain ⟨x, y⟩ := c
    obtain ⟨x', y'⟩ := c'
    exact Cell.mk.injEq .. ▸ ⟨hx, hy⟩
  · rintro rfl
    rfl

/-- **The objects in the atom of a link** are the two cells of the link. -/
theorem object_mem_connectionAtom_iff {o : Object} :
    .object o ∈ (D.connectionAtom l).args ↔ o = D.theCell l.source ∨ o = D.theCell l.target := by
  have hfill {v : String} (hv : v ∈ (D.connectionTemplate l.direction).variableNames) :
      D.linkFill l v ∈ (D.connectionAtom l).args :=
    List.mem_map.2 ⟨_, Template.mem_variableNames_iff.1 hv, rfl⟩
  obtain ⟨t, ht, -, hcell, hone⟩ := D.exists_connection l.direction
  have htemplate : D.connectionTemplate l.direction = t := by rw [connectionTemplate, ht]; rfl
  rw [htemplate] at hfill
  constructor
  · intro h
    obtain ⟨token, -, htoken⟩ := List.mem_map.1 h
    cases token with
    | literal s => cases htoken
    | placeholder v =>
      obtain rfl : D.theCell (if v = D.cell then l.source else l.target) = o :=
        Argument.object.inj htoken
      split
      · exact .inl rfl
      · exact .inr rfl
  · rintro (rfl | rfl)
    · have h := hfill hcell
      rwa [linkFill, if_pos rfl] at h
    · obtain ⟨v, hv⟩ := List.length_eq_one_iff.1 hone
      have hmem : v ∈ t.variableNames.filter (· ≠ D.cell) := hv ▸ List.mem_singleton_self v
      obtain ⟨hmem, hne⟩ := List.mem_filter.1 hmem
      have h := hfill hmem
      rwa [linkFill, if_neg (of_decide_eq_true hne)] at h

/-- Links with the same atom have the same two cells. -/
theorem ends_of_connectionAtom_eq (hne : l.source ≠ l.target)
    (h : D.connectionAtom l = D.connectionAtom l') :
    l'.source = l.source ∧ l'.target = l.target ∨ l'.source = l.target ∧ l'.target = l.source := by
  have hends (c : Cell) (hc : c = l.source ∨ c = l.target) : c = l'.source ∨ c = l'.target := by
    have hmem : .object (D.theCell c) ∈ (D.connectionAtom l').args := by
      rw [← h, object_mem_connectionAtom_iff, theCell_inj, theCell_inj]
      exact hc
    rwa [object_mem_connectionAtom_iff, theCell_inj, theCell_inj] at hmem
  have hsource := hends l.source (.inl rfl)
  have htarget := hends l.target (.inr rfl)
  grind

/-! ### Links with the same atom -/

/-- Turning a link round gives the same atom just for templates that are mirror images. -/
theorem fill_reverse_iff {t u : Template} (hne : l.source ≠ l.target) :
    t.fill (D.linkFill l) = u.fill (D.linkFill l.reverse) ↔ t.Mirrors D.cell u := by
  have htoken (a b : Token) :
      a.fill (D.linkFill l) = b.fill (D.linkFill l.reverse) ↔ a.Mirrors D.cell b := by
    cases a <;> cases b <;>
      simp only [Token.fill, Token.Mirrors, linkFill, Argument.constant.injEq,
        Argument.object.injEq, theCell_inj, Link.reverse, reduceCtorEq]
    split <;> split <;> simp_all [Ne.symm]
  rw [Template.fill, Template.fill, Atom.mk.injEq, map_eq_map_iff_forall₂]
  simp only [htoken]
  exact ⟨fun h => ⟨h.1, h.2⟩, fun h => ⟨h.name, h.tokens⟩⟩

/-- **Which links have the same atom**: a link and its reverse, where the domain writes their
directions alike, and no others. -/
theorem connectionAtom_eq_iff (hl : s.IsLink l) (hl' : s.IsLink l') :
    D.connectionAtom l' = D.connectionAtom l ↔
      l' = l ∨ l' = l.reverse ∧ D.Mirrored l.direction := by
  have hne : l.source ≠ l.target := hl.neighbour ▸ Cell.self_ne_neighbour _ _
  have hreverse : D.connectionAtom l = D.connectionAtom l.reverse ↔ D.Mirrored l.direction :=
    (fill_reverse_iff hne).trans mirrored_iff.symm
  constructor
  · intro h
    rcases ends_of_connectionAtom_eq hne h.symm with ⟨hsource, htarget⟩ | ⟨hsource, htarget⟩
    · exact .inl (hl'.ext hl hsource htarget)
    · obtain rfl := hl.eq_reverse hl' hsource htarget
      exact .inr ⟨rfl, hreverse.1 h.symm⟩
  · rintro (rfl | ⟨rfl, hmirrored⟩)
    · rfl
    · exact (hreverse.2 hmirrored).symm

/-! ### Which links bring an atom -/

/-- The links in a direction bring atoms of their own: their reverses did not bring them before. -/
def bringsAtoms (D : Domain) (d : Direction) : Bool := !((d = .up ∨ d = .left) ∧ D.Mirrored d)

theorem bringsAtoms_iff (hl : s.IsLink l) :
    D.bringsAtoms l.direction = true ↔ IsFirst Link.Before D.connectionAtom s.links l := by
  simp only [bringsAtoms, Bool.not_eq_true', decide_eq_false_iff_not]
  constructor
  · intro h l' hl' hbefore heq
    rcases (connectionAtom_eq_iff hl (Snapshot.mem_links_iff.1 hl')).1 heq with
      rfl | ⟨rfl, hmirrored⟩
    · exact Link.Before.irrefl _ hbefore
    · exact h ⟨hl.reverse_before_iff.1 hbefore, hmirrored⟩
  · rintro h ⟨hdirection, hmirrored⟩
    exact h l.reverse (Snapshot.mem_links_iff.2 hl.reverse) (hl.reverse_before_iff.2 hdirection)
      ((connectionAtom_eq_iff hl hl.reverse).2 (.inr ⟨rfl, hmirrored⟩))

/-- **The atoms of a grid**, each where its first link comes up. -/
theorem atoms_connectivityOf (D : Domain) (s : Snapshot) :
    (D.connectivityOf s).atoms =
      (s.links.filter fun l => D.bringsAtoms l.direction).map D.connectionAtom :=
  eraseDups_map_eq (fun l _ h h' => Link.Before.irrefl l (h.trans h')) s.pairwise_links
    fun _ hl => bringsAtoms_iff (Snapshot.mem_links_iff.1 hl)

theorem mem_atoms_connectivityOf_iff {a : Atom} :
    a ∈ (D.connectivityOf s).atoms ↔ ∃ l, s.IsLink l ∧ D.IsConnection l a := by
  simp only [connectivityOf, List.mem_eraseDups, List.mem_map, Snapshot.mem_links_iff,
    isConnection_iff, eq_comm]

/-- The atoms stand in the order in which they first came up. -/
theorem pairwise_atoms_connectivityOf (D : Domain) (s : Snapshot) :
    (D.connectivityOf s).atoms.Pairwise fun a b => ∃ l, s.IsLink l ∧ D.IsConnection l a ∧
      ∀ l', s.IsLink l' → D.IsConnection l' b → l.Before l' := by
  rw [atoms_connectivityOf, List.pairwise_map]
  refine List.Pairwise.imp_of_mem (fun {l m} hl hm hbefore => ?_) (s.pairwise_links.filter _)
  obtain ⟨hl, -⟩ := List.mem_filter.1 hl
  obtain ⟨hm, hbrings⟩ := List.mem_filter.1 hm
  rw [Snapshot.mem_links_iff] at hl hm
  refine ⟨l, hl, isConnection_iff.2 rfl, fun l' hl' hl'm => ?_⟩
  -- The atom of `m` came up first with `m`, and with the reverse of `m`, if at all, only later.
  rcases (connectionAtom_eq_iff hm hl').1 (isConnection_iff.1 hl'm).symm with
    rfl | ⟨rfl, hmirrored⟩
  · exact hbefore
  · have hlater : m.Before m.reverse := by
      have hback := hm.reverse.reverse_before_iff
      rw [m.reverse_reverse] at hback
      simp only [bringsAtoms, hmirrored, and_true, Bool.not_eq_true', decide_eq_false_iff_not]
        at hbrings
      refine hback.2 ?_
      rw [Link.reverse]
      cases hd : m.direction <;> simp_all [Direction.opposite]
    exact hbefore.trans hlater

/-- How many atoms a grid has. -/
theorem length_atoms_connectivityOf (D : Domain) (s : Snapshot) :
    ((D.connectivityOf s).atoms.length : Int) =
      2 * (2 * s.width * s.height - s.width - s.height) -
        (if D.Mirrored .up then s.width * (s.height - 1) else 0) -
        (if D.Mirrored .left then s.height * (s.width - 1) else 0) := by
  have hdown : D.bringsAtoms .down = true := by simp [bringsAtoms]
  have hright : D.bringsAtoms .right = true := by simp [bringsAtoms]
  have hup : D.bringsAtoms .up = true ↔ ¬ D.Mirrored .up := by simp [bringsAtoms]
  have hleft : D.bringsAtoms .left = true ↔ ¬ D.Mirrored .left := by simp [bringsAtoms]
  have hwidth : ((s.width - 1 : Nat) : Int) = s.width - 1 := Int.ofNat_sub s.width_pos
  have hheight : ((s.height - 1 : Nat) : Int) = s.height - 1 := Int.ofNat_sub s.height_pos
  rw [atoms_connectivityOf, List.length_map, ← List.countP_eq_length_filter, Snapshot.countP_links]
  simp only [hdown, hright, hup, hleft, if_true, Nat.cast_add, Nat.cast_ite, Nat.cast_mul, hwidth,
    hheight, Nat.cast_zero]
  split_ifs <;> ring

end Domain

namespace Connectivity

/-- **What the connectivity of a grid says.** Whatever its measures, connectivity is worked out, and
its atoms are just those of the links of the grid, each once, in the order in which the visit first
comes upon them. Links have the same atom only where a domain writes opposite directions alike, and
then a link and its reverse; so the atoms can be counted. -/
theorem exists_build_eq_ok_atoms (D : Domain) (s : Snapshot) :
    ∃ g, build D s = .ok g ∧ g.atoms.Nodup ∧
      (∀ a, a ∈ g.atoms ↔ ∃ l, s.IsLink l ∧ D.IsConnection l a) ∧
      (g.atoms.Pairwise fun a b => ∃ l, s.IsLink l ∧ D.IsConnection l a ∧
        ∀ l', s.IsLink l' → D.IsConnection l' b → l.Before l') ∧
      (g.atoms.length : Int) =
        2 * (2 * s.width * s.height - s.width - s.height) -
          (if D.Mirrored .up then s.width * (s.height - 1) else 0) -
          (if D.Mirrored .left then s.height * (s.width - 1) else 0) ∧
      ∀ l l' a, s.IsLink l → s.IsLink l' → D.IsConnection l a →
        (D.IsConnection l' a ↔ l' = l ∨ l' = l.reverse ∧ D.Mirrored l.direction) := by
  refine ⟨D.connectivityOf s, D.build_eq s, nodup_eraseDups _,
    fun _ => Domain.mem_atoms_connectivityOf_iff, D.pairwise_atoms_connectivityOf s,
    D.length_atoms_connectivityOf s, fun l l' a hl hl' ha => ?_⟩
  obtain rfl := Domain.isConnection_iff.1 ha
  rw [Domain.isConnection_iff, eq_comm]
  exact Domain.connectionAtom_eq_iff hl hl'

end Connectivity

end PlayTrace
