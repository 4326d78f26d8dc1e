import Mathlib.Tactic.Ring
import PlayTrace.Proofs.Grounding.Links
import PlayTrace.Proofs.Grounding.Reading
import PlayTrace.Proofs.Table

/-!
# The graph of a grid

The links of a grid are the edges of a directed graph on its cells. A graph is kept by its nodes
and, for each ordered pair of them, at most one label, and it grows as the grid is visited: each
cell becomes a node, and each step to a neighbour inside the grid an edge, whose two ends become
nodes if they are none yet. So a cell is often a node before it is visited itself. An edge that is
added again would lose the label it had, and a step off the grid would bring a node of its own.

Neither happens. The visit adds no edge twice, since a link is told by its two ends, and both ends
lie in the grid. So the graph holds just the links, and going from a cell in a direction is
arithmetic on the cell.

## Main definitions

* `CellGraph` — nodes, and one label for each ordered pair of nodes
* `Snapshot.graph` — the graph that a visit of the grid builds up
* `Connectivity.Keeps` — a list of links says what a graph says

## Main results

* `Snapshot.entries_graph`, `Snapshot.perm_nodes_graph` — the visit overwrites nothing and adds no
  node from outside
* `Connectivity.neighbour?_eq_some_iff` — a neighbour is the end of a link
* `Connectivity.keeps_graph` — what the links say, the graph says
-/

namespace PlayTrace

/-! ### Graphs on cells -/

/-- A directed graph on cells, its edges labelled with directions. -/
structure CellGraph where
  /-- the nodes, in the order in which they were first mentioned -/
  nodes : List Cell
  /-- the label of each ordered pair that is an edge -/
  edges : Table (Cell × Cell) Direction

namespace Link

/-- The two ends of a link. -/
def ends (l : Link) : Cell × Cell := (l.source, l.target)

/-- A link as an edge with its label. -/
def entry (l : Link) : (Cell × Cell) × Direction := (l.ends, l.direction)

end Link

namespace CellGraph

/-- The graph without nodes. -/
def empty : CellGraph := ⟨[], .empty⟩

/-- The graph with a cell among its nodes. -/
def addNode (G : CellGraph) (c : Cell) : CellGraph :=
  { G with nodes := if c ∈ G.nodes then G.nodes else G.nodes ++ [c] }

/-- The graph with a link among its edges. The ends become nodes, and an edge that is there already
takes the new label. -/
def addEdge (G : CellGraph) (l : Link) : CellGraph :=
  { (G.addNode l.source).addNode l.target with edges := G.edges.insert l.ends l.direction }

/-- The end of the first edge out of a node that has a label. -/
def towards? (G : CellGraph) (c : Cell) (d : Direction) : Option Cell :=
  if c ∈ G.nodes then
    ((G.edges.entries.filter fun e => e.1.1 = c).find? fun e => e.2 = d).map fun e => e.1.2
  else none

variable {G : CellGraph} {c c' : Cell} {l : Link}

theorem mem_nodes_addNode : c' ∈ (G.addNode c).nodes ↔ c' ∈ G.nodes ∨ c' = c := by
  by_cases h : c ∈ G.nodes
  · simp only [addNode, if_pos h, iff_self_or]
    rintro rfl
    exact h
  · simp [addNode, if_neg h]

theorem nodup_nodes_addNode (h : G.nodes.Nodup) (c : Cell) : (G.addNode c).nodes.Nodup := by
  by_cases hc : c ∈ G.nodes
  · simpa only [addNode, if_pos hc] using h
  · simp only [addNode, if_neg hc]
    simpa using h.concat hc

@[simp] theorem edges_addNode (G : CellGraph) (c : Cell) : (G.addNode c).edges = G.edges := rfl

theorem mem_nodes_addEdge :
    c ∈ (G.addEdge l).nodes ↔ c ∈ G.nodes ∨ c = l.source ∨ c = l.target := by
  rw [addEdge, mem_nodes_addNode, mem_nodes_addNode, or_assoc]

theorem nodup_nodes_addEdge (h : G.nodes.Nodup) (l : Link) : (G.addEdge l).nodes.Nodup :=
  nodup_nodes_addNode (nodup_nodes_addNode h _) _

/-! Adding one link after the other. -/

theorem mem_nodes_foldl_addEdge (ls : List Link) (G : CellGraph) :
    c ∈ (ls.foldl addEdge G).nodes ↔ c ∈ G.nodes ∨ ∃ l ∈ ls, c = l.source ∨ c = l.target := by
  induction ls generalizing G with
  | nil => simp
  | cons l ls ih => rw [List.foldl_cons, ih, mem_nodes_addEdge, List.exists_mem_cons_iff, or_assoc]

theorem nodup_nodes_foldl_addEdge (ls : List Link) (h : G.nodes.Nodup) :
    (ls.foldl addEdge G).nodes.Nodup := by
  induction ls generalizing G with
  | nil => exact h
  | cons l ls ih => exact ih (nodup_nodes_addEdge h l)

theorem edges_foldl_addEdge (ls : List Link) (G : CellGraph) :
    (ls.foldl addEdge G).edges =
      (ls.map Link.entry).foldl (fun t e => t.insert e.1 e.2) G.edges := by
  induction ls generalizing G with
  | nil => rfl
  | cons l ls ih => exact ih (G.addEdge l)

end CellGraph

namespace Snapshot

open CellGraph

variable {s : Snapshot} {c : Cell} {d : Direction}

/-! ### The visit -/

/-- A visit of a cell adds the cell and then, direction by direction, the steps from it that stay in
the grid. -/
def visit (s : Snapshot) (G : CellGraph) (c : Cell) : CellGraph :=
  Direction.all.foldl
    (fun G d => if s.inBounds (c.neighbour d) then G.addEdge ⟨c, d, c.neighbour d⟩ else G)
    (G.addNode c)

/-- The graph of a grid: its cells are visited row by row. -/
def graph (s : Snapshot) : CellGraph := s.cells.foldl s.visit .empty

/-- A visit of a cell adds the links that leave it. -/
theorem visit_eq (s : Snapshot) (G : CellGraph) (c : Cell) :
    s.visit G c = (s.linksFrom c).foldl addEdge (G.addNode c) := by
  rw [visit, linksFrom, List.foldl_filter, List.foldl_map]

theorem edges_foldl_visit (cs : List Cell) (G : CellGraph) :
    (cs.foldl s.visit G).edges =
      ((cs.flatMap s.linksFrom).map Link.entry).foldl (fun t e => t.insert e.1 e.2) G.edges := by
  induction cs generalizing G with
  | nil => rfl
  | cons c cs ih =>
    rw [List.foldl_cons, ih, visit_eq, edges_foldl_addEdge, edges_addNode, List.flatMap_cons,
      List.map_append, List.foldl_append]

theorem mem_nodes_foldl_visit (cs : List Cell) (G : CellGraph) :
    c ∈ (cs.foldl s.visit G).nodes ↔
      c ∈ G.nodes ∨ c ∈ cs ∨ ∃ l ∈ cs.flatMap s.linksFrom, c = l.source ∨ c = l.target := by
  induction cs generalizing G with
  | nil => simp
  | cons c' cs ih =>
    rw [List.foldl_cons, ih, visit_eq, mem_nodes_foldl_addEdge, mem_nodes_addNode,
      List.flatMap_cons, List.mem_cons]
    simp only [List.mem_append, or_and_right, exists_or, or_assoc, or_left_comm]

theorem nodup_nodes_foldl_visit (cs : List Cell) {G : CellGraph} (h : G.nodes.Nodup) :
    (cs.foldl s.visit G).nodes.Nodup := by
  induction cs generalizing G with
  | nil => exact h
  | cons c cs ih =>
    rw [List.foldl_cons, visit_eq]
    exact ih (nodup_nodes_foldl_addEdge _ (nodup_nodes_addNode h c))

/-! ### Nodes and edges -/

theorem nodup_cells (s : Snapshot) : s.cells.Nodup :=
  s.pairwise_cells.imp fun {c c'} h => by
    rintro rfl
    exact Cell.Before.irrefl c h

theorem length_cells (s : Snapshot) : s.cells.length = s.width * s.height := by
  simp [cells, cellsOf, mul_comm]

/-- No two links have the same ends. -/
theorem nodup_ends (s : Snapshot) : (s.links.map Link.ends).Nodup := by
  rw [List.Nodup, List.pairwise_map]
  refine s.pairwise_links.imp_of_mem fun {l l'} hl hl' hbefore heq => ?_
  rw [mem_links_iff] at hl hl'
  obtain rfl := hl.ext hl' (congrArg Prod.fst heq) (congrArg Prod.snd heq)
  exact Link.Before.irrefl l hbefore

theorem length_links (s : Snapshot) :
    (s.links.length : Int) = 2 * (2 * s.width * s.height - s.width - s.height) := by
  have hcount := s.countP_links fun _ => true
  rw [List.countP_true] at hcount
  have hwidth : ((s.width - 1 : Nat) : Int) = s.width - 1 := Int.ofNat_sub s.width_pos
  have hheight : ((s.height - 1 : Nat) : Int) = s.height - 1 := Int.ofNat_sub s.height_pos
  rw [hcount]
  simp only [if_true, Nat.cast_add, Nat.cast_mul, hwidth, hheight]
  ring

/-- **No edge is overwritten**: the edges of the graph are the links, in the order of the visit. -/
theorem entries_graph (s : Snapshot) : s.graph.edges.entries = s.links.map Link.entry := by
  have hkeys : (s.links.map Link.entry).map Prod.fst = s.links.map Link.ends := by
    rw [List.map_map]
    rfl
  have hentries := Table.entries_ofList (hkeys ▸ s.nodup_ends)
  rwa [graph, edges_foldl_visit]

theorem mem_nodes_graph_iff : c ∈ s.graph.nodes ↔ s.inBounds c = true := by
  rw [graph, mem_nodes_foldl_visit, mem_cells_iff]
  constructor
  · rintro (h | h | ⟨l, hl, h⟩)
    · cases h
    · exact h
    · have hlink := mem_links_iff.1 hl
      rcases h with rfl | rfl
      · exact hlink.source
      · exact hlink.target
  · exact fun h => .inr (.inl h)

/-- **No node comes from outside**: the nodes of the graph are the cells, each once. -/
theorem perm_nodes_graph (s : Snapshot) : s.graph.nodes.Perm s.cells := by
  have hnodup : s.graph.nodes.Nodup := nodup_nodes_foldl_visit _ List.nodup_nil
  refine (List.perm_ext_iff_of_nodup hnodup s.nodup_cells).2 fun c => ?_
  rw [mem_cells_iff]
  exact mem_nodes_graph_iff

end Snapshot

/-! ### Neighbours -/

namespace Connectivity

variable {g : Connectivity} {s : Snapshot} {c e : Cell} {d : Direction}

/-- A list of links says what a graph says: it has the same cells and edges, and leads to the same
cells. -/
structure Keeps (g : Connectivity) (G : CellGraph) : Prop where
  nodes : G.nodes.Perm g.cells
  edges : G.edges.entries = g.links.map Link.entry
  towards : ∀ c d, G.towards? c d = g.neighbour? c d

theorem isLink_of_neighbour? (hg : g.links = s.links) (h : g.neighbour? c d = some e) :
    s.IsLink ⟨c, d, e⟩ := by
  rw [neighbour?, hg] at h
  obtain ⟨l, hl, rfl⟩ := Option.map_eq_some_iff.1 h
  have hfound := List.find?_some hl
  simp only [Bool.and_eq_true, decide_eq_true_eq] at hfound
  obtain ⟨rfl, rfl⟩ := hfound
  exact Snapshot.mem_links_iff.1 (List.mem_of_find?_eq_some hl)

/-- A neighbour is the end of a link. -/
theorem neighbour?_eq_some_iff (hg : g.links = s.links) :
    g.neighbour? c d = some e ↔ s.IsLink ⟨c, d, e⟩ := by
  refine ⟨isLink_of_neighbour? hg, fun h => ?_⟩
  have hsome : (g.neighbour? c d).isSome := by
    rw [neighbour?, hg, Option.isSome_map, List.find?_isSome]
    exact ⟨_, Snapshot.mem_links_iff.2 h, by simp⟩
  obtain ⟨e', he'⟩ := Option.isSome_iff_exists.1 hsome
  have heq : e' = e := (isLink_of_neighbour? hg he').neighbour.trans h.neighbour.symm
  rw [he', heq]

/-- Going from a cell in a direction is arithmetic on the cell. -/
theorem neighbour?_eq (hg : g.links = s.links) (c : Cell) (d : Direction) :
    g.neighbour? c d =
      if s.inBounds c = true ∧ s.inBounds (c.neighbour d) = true then some (c.neighbour d)
      else none := by
  split
  · rename_i h
    exact (neighbour?_eq_some_iff hg).2 ⟨h.1, h.2, rfl⟩
  · rename_i h
    refine Option.eq_none_iff_forall_ne_some.2 fun e he => h ?_
    have hlink := (neighbour?_eq_some_iff hg).1 he
    exact ⟨hlink.source, hlink.neighbour ▸ hlink.target⟩

/-- Whoever goes on in a direction comes back in the opposite one. -/
theorem neighbour?_opposite_iff (hg : g.links = s.links) :
    g.neighbour? c d = some e ↔ g.neighbour? e d.opposite = some c := by
  rw [neighbour?_eq_some_iff hg, neighbour?_eq_some_iff hg]
  constructor
  · exact fun h => h.reverse
  · intro h
    have hback := h.reverse
    rwa [← Link.reverse_reverse ⟨c, d, e⟩]

/-- **What the links say, the graph says.** -/
theorem keeps_graph (hcells : g.cells = s.cells) (hg : g.links = s.links) : g.Keeps s.graph where
  nodes := hcells ▸ s.perm_nodes_graph
  edges := hg ▸ s.entries_graph
  towards := by
    intro c d
    rw [CellGraph.towards?]
    split
    · rw [s.entries_graph, List.find?_filter, List.find?_map, Option.map_map, neighbour?, hg]
      simp only [Function.comp_def, Link.entry, Link.ends, Bool.decide_and, Bool.decide_eq_true]
      rfl
    · rename_i hout
      rw [Snapshot.mem_nodes_graph_iff] at hout
      rw [neighbour?_eq hg, if_neg fun h => hout h.1]

end Connectivity

end PlayTrace
