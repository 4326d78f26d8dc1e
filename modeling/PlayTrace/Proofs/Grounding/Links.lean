import Mathlib.Algebra.BigOperators.Intervals
import Mathlib.Algebra.Group.Action.Defs
import PlayTrace.Grounding.Connectivity
import PlayTrace.Proofs.Grid.Snapshot

/-!
# The links of a grid

A grid is visited row by row, and from each cell the four directions are tried in order. The links
that come up are just the pairs of a cell and a direction whose neighbour lies inside the grid; they
come up in a strict order, so none of them twice. Turning a link round gives a link again, and of a
link and its reverse the one that goes down or right comes up first.

## Main definitions

* `Snapshot.IsLink` — a link of the grid, without regard to how the grid is visited
* `Link.Before` — the order of the visit
* `Link.reverse` — a link turned round

## Main results

* `Snapshot.mem_links_iff`, `Snapshot.pairwise_links` — the visit meets every link once, in order
* `Link.reverse_before_iff` — which of a link and its reverse comes up later
* `Snapshot.countP_links` — how many links there are in each direction
-/

namespace PlayTrace

/-! ### Directions and neighbours -/

/-- The direction that leads back. -/
def Direction.opposite : Direction → Direction
  | up => down
  | down => up
  | left => right
  | right => left

namespace Cell

variable {c c' : Cell} {d d' : Direction}

theorem neighbour_opposite (c : Cell) (d : Direction) :
    (c.neighbour d).neighbour d.opposite = c := by
  obtain ⟨x, y⟩ := c
  cases d <;> simp [neighbour, displace, Direction.step, Direction.opposite]

theorem neighbour_inj : c.neighbour d = c.neighbour d' ↔ d = d' := by
  constructor
  · intro h
    obtain ⟨x, y⟩ := c
    cases d <;> cases d' <;> simp [neighbour, displace, Direction.step] at h ⊢
  · rintro rfl
    rfl

theorem self_ne_neighbour (c : Cell) (d : Direction) : c ≠ c.neighbour d := by
  obtain ⟨x, y⟩ := c
  cases d <;> simp [neighbour, displace, Direction.step]

/-- Cells row by row, from left to right. -/
def Before (c c' : Cell) : Prop := c.y < c'.y ∨ c.y = c'.y ∧ c.x < c'.x

theorem Before.irrefl (c : Cell) : ¬ c.Before c := by
  simp [Before]

theorem Before.trans {c c' c'' : Cell} (h : c.Before c') (h' : c'.Before c'') : c.Before c'' := by
  unfold Before at *
  omega

end Cell

/-! ### Links -/

namespace Link

/-- A link turned round. -/
def reverse (l : Link) : Link := ⟨l.target, l.direction.opposite, l.source⟩

theorem reverse_reverse (l : Link) : l.reverse.reverse = l := by
  obtain ⟨c, d, n⟩ := l
  cases d <;> rfl

/-- The order of the visit: by cell, row by row, and for each cell by direction. -/
def Before (l l' : Link) : Prop :=
  l.source.Before l'.source ∨
    l.source = l'.source ∧ Direction.all.idxOf l.direction < Direction.all.idxOf l'.direction

theorem Before.irrefl (l : Link) : ¬ l.Before l := by
  simp [Before, Cell.Before.irrefl]

theorem Before.trans {l l' l'' : Link} (h : l.Before l') (h' : l'.Before l'') : l.Before l'' := by
  rcases h with h | ⟨heq, h⟩
  · rcases h' with h' | ⟨heq', -⟩
    · exact .inl (h.trans h')
    · exact .inl (heq' ▸ h)
  · rcases h' with h' | ⟨heq', h'⟩
    · exact .inl (heq ▸ h')
    · exact .inr ⟨heq.trans heq', h.trans h'⟩

end Link

namespace Snapshot

variable {s : Snapshot} {c : Cell} {l l' : Link}

/-- A link leads from a cell of the grid in a direction to the neighbour, if that is in the grid. -/
structure IsLink (s : Snapshot) (l : Link) : Prop where
  source : s.inBounds l.source = true
  target : s.inBounds l.target = true
  neighbour : l.target = l.source.neighbour l.direction

theorem IsLink.reverse (h : s.IsLink l) : s.IsLink l.reverse :=
  ⟨h.target, h.source, by
    rw [Link.reverse, h.neighbour, Cell.neighbour_opposite]⟩

/-- A link is told by its two ends. -/
theorem IsLink.ext (h : s.IsLink l) (h' : s.IsLink l') (hsource : l.source = l'.source)
    (htarget : l.target = l'.target) : l = l' := by
  obtain ⟨c, d, n⟩ := l
  obtain ⟨c', d', n'⟩ := l'
  obtain rfl : c = c' := hsource
  obtain rfl : n = n' := htarget
  obtain rfl : d = d' := Cell.neighbour_inj.1 (h.neighbour.symm.trans h'.neighbour)
  rfl

/-- A link between the same cells the other way is the link turned round. -/
theorem IsLink.eq_reverse (h : s.IsLink l) (h' : s.IsLink l') (hsource : l'.source = l.target)
    (htarget : l'.target = l.source) : l' = l.reverse :=
  h'.ext h.reverse hsource htarget

/-- **Of a link and its reverse** the one that leads up or left comes up later. -/
theorem IsLink.reverse_before_iff (h : s.IsLink l) :
    l.reverse.Before l ↔ l.direction = .up ∨ l.direction = .left := by
  obtain ⟨⟨x, y⟩, d, n⟩ := l
  obtain rfl : n = Cell.neighbour ⟨x, y⟩ d := h.neighbour
  cases d <;> simp [Link.Before, Link.reverse, Cell.Before, Cell.neighbour, Cell.displace,
    Direction.step]

/-! ### The visit -/

theorem mem_links_iff : l ∈ s.links ↔ s.IsLink l := by
  obtain ⟨c, d, n⟩ := l
  simp only [links, linksFrom, List.mem_flatMap, List.mem_filter, List.mem_map, Link.mk.injEq,
    mem_cells_iff]
  constructor
  · rintro ⟨_, hc, ⟨_, -, rfl, rfl, rfl⟩, hn⟩
    exact ⟨hc, hn, rfl⟩
  · intro h
    exact ⟨c, h.source, ⟨d, Direction.mem_all d, rfl, rfl, h.neighbour.symm⟩, h.target⟩

theorem pairwise_cells (s : Snapshot) : s.cells.Pairwise Cell.Before := by
  refine List.pairwise_flatMap.2 ⟨fun y _ => ?_, ?_⟩
  · rw [List.pairwise_map]
    exact List.pairwise_lt_range.imp fun h => .inr ⟨rfl, Int.ofNat_lt.2 h⟩
  · refine List.pairwise_lt_range.imp fun {y y'} h c hc c' hc' => .inl ?_
    obtain ⟨x, -, rfl⟩ := List.mem_map.1 hc
    obtain ⟨x', -, rfl⟩ := List.mem_map.1 hc'
    exact Int.ofNat_lt.2 h

theorem source_of_mem_linksFrom (h : l ∈ s.linksFrom c) : l.source = c := by
  obtain ⟨d, -, rfl⟩ := List.mem_map.1 (List.mem_filter.1 h).1
  rfl

/-- **The links come up in the order of the visit.** -/
theorem pairwise_links (s : Snapshot) : s.links.Pairwise Link.Before := by
  refine List.pairwise_flatMap.2 ⟨fun c _ => ?_, ?_⟩
  · refine List.Pairwise.filter _ (List.pairwise_map.2 ?_)
    have hall : Direction.all.Pairwise fun d d' =>
        Direction.all.idxOf d < Direction.all.idxOf d' := by decide
    exact hall.imp fun h => .inr ⟨rfl, h⟩
  · refine s.pairwise_cells.imp fun {c c'} h l hl l' hl' => .inl ?_
    rwa [source_of_mem_linksFrom hl, source_of_mem_linksFrom hl']

/-! ### Counting -/

theorem countP_flatMap_range {α : Type} (p : α → Bool) (g : Nat → List α) (n : Nat) :
    ((List.range n).flatMap g).countP p = ∑ i ∈ Finset.range n, (g i).countP p := by
  induction n with
  | zero => rfl
  | succ n ih =>
    rw [List.range_succ, List.flatMap_append, List.countP_append, ih, Finset.sum_range_succ]
    simp

/-- The cells with a property, counted row by row. -/
theorem countP_cells (s : Snapshot) (p : Cell → Bool) :
    s.cells.countP p =
      ∑ y ∈ Finset.range s.height, ∑ x ∈ Finset.range s.width, if p ⟨x, y⟩ then 1 else 0 := by
  rw [cells, cellsOf, countP_flatMap_range]
  refine Finset.sum_congr rfl fun y _ => ?_
  rw [List.map_eq_flatMap, countP_flatMap_range]
  exact Finset.sum_congr rfl fun x _ => by simp [List.countP_cons]

/-- All numbers below a bound but the first. -/
theorem sum_range_pos (n : Nat) : (∑ i ∈ Finset.range n, if 0 < i then 1 else 0) = n - 1 := by
  cases n with
  | zero => rfl
  | succ n => rw [Finset.sum_range_succ']; simp

/-- All numbers below a bound but the last. -/
theorem sum_range_succ_lt (n : Nat) :
    (∑ i ∈ Finset.range n, if i + 1 < n then 1 else 0) = n - 1 := by
  cases n with
  | zero => rfl
  | succ n =>
    rw [Finset.sum_range_succ]
    have hall : ∀ i ∈ Finset.range n, (if i + 1 < n + 1 then 1 else 0) = 1 := by simp
    rw [Finset.sum_congr rfl hall]
    simp

/-- The cells that have a neighbour in a direction. -/
theorem countP_cells_neighbour (s : Snapshot) (d : Direction) :
    (s.cells.countP fun c => s.inBounds (c.neighbour d)) =
      match d with
      | .up | .down => s.width * (s.height - 1)
      | .left | .right => s.height * (s.width - 1) := by
  -- Inside the grid one coordinate alone decides whether there is a neighbour.
  have hdecides (y x : Nat) (hy : y ∈ Finset.range s.height) (hx : x ∈ Finset.range s.width) :
      s.inBounds (Cell.neighbour ⟨x, y⟩ d) = match d with
        | .up => decide (0 < y)
        | .down => decide (y + 1 < s.height)
        | .left => decide (0 < x)
        | .right => decide (x + 1 < s.width) := by
    rw [Finset.mem_range] at hx hy
    rw [Bool.eq_iff_iff, inBounds_iff]
    cases d <;> simp only [Cell.neighbour, Cell.displace, Direction.step, decide_eq_true_eq] <;>
      omega
  rw [countP_cells, Finset.sum_congr rfl fun y hy => Finset.sum_congr rfl fun x hx => by
    rw [hdecides y x hy hx]]
  cases d with
  | up | down =>
    rw [Finset.sum_comm]
    simp only [decide_eq_true_eq, sum_range_pos, sum_range_succ_lt, Finset.sum_const,
      Finset.card_range, smul_eq_mul]
  | left | right =>
    simp only [decide_eq_true_eq, sum_range_pos, sum_range_succ_lt, Finset.sum_const,
      Finset.card_range, smul_eq_mul]

/-- The links in a direction. -/
theorem countP_links_direction (s : Snapshot) (d : Direction) :
    (s.links.countP fun l => l.direction = d) =
      s.cells.countP fun c => s.inBounds (c.neighbour d) := by
  have hfrom (c : Cell) : ((s.linksFrom c).countP fun l => l.direction = d) =
      if s.inBounds (c.neighbour d) then 1 else 0 := by
    rw [linksFrom, List.countP_filter, List.countP_map]
    cases d <;> simp [Direction.all, List.countP_cons]
  rw [links]
  induction s.cells with
  | nil => rfl
  | cons c cs ih =>
    rw [List.flatMap_cons, List.countP_append, hfrom, ih, List.countP_cons, add_comm]

theorem countP_direction (keep : Direction → Bool) (ls : List Link) :
    ls.countP (fun l => keep l.direction) = (Direction.all.map fun d =>
      if keep d then ls.countP fun l => l.direction = d else 0).sum := by
  induction ls with
  | nil => simp
  | cons l ls ih =>
    simp only [List.countP_cons, ih]
    cases l.direction <;> simp [Direction.all] <;> split_ifs <;> omega

/-- **The links of a grid**, counted direction by direction. -/
theorem countP_links (s : Snapshot) (keep : Direction → Bool) :
    s.links.countP (fun l => keep l.direction) =
      (if keep .up then s.width * (s.height - 1) else 0) +
        (if keep .down then s.width * (s.height - 1) else 0) +
        (if keep .left then s.height * (s.width - 1) else 0) +
        (if keep .right then s.height * (s.width - 1) else 0) := by
  rw [countP_direction]
  simp only [countP_links_direction, countP_cells_neighbour]
  simp [Direction.all, add_assoc]

end Snapshot

end PlayTrace
