import PlayTrace.Proofs.Grounding.Graph

/-!
# Libraries of graphs

The graph of a grid is built with a library of graphs, of which little is used: a graph without
nodes, adding a node, adding an edge with a label, and looking at nodes, at the label of an edge, and
at the edges that leave a node. `GraphLibrary.Laws` is what such a library promises: a node or an
edge that is added is there, an edge brings its ends with it and replaces the label that it had, and
nothing else changes. In which order nodes and edges are listed is left open.

The graphs on cells that are made of lists are such a library, and any other one builds up a graph
that shows the same.

## Main definitions

* `GraphLibrary`, `GraphLibrary.Laws` — what is used of a library, and what it promises
* `GraphLibrary.Shows` — a graph of a library shows what a graph on cells holds
* `GraphLibrary.Keeps` — a list of links says what a graph of a library says

## Main results

* `CellGraph.laws_library` — graphs made of lists keep the promises
* `GraphLibrary.Laws.shows_graph` — the graph that a library builds up
* `Connectivity.exists_build_eq_ok_graph` — the graph is the geometry of the grid
-/

namespace PlayTrace

/-- What is used of a library of directed graphs on cells, whose edges are labelled with
directions. -/
structure GraphLibrary where
  Graph : Type
  new : Graph
  addNode : Graph → Cell → Graph
  addEdge : Graph → Link → Graph
  nodes : Graph → List Cell
  label? : Graph → Cell → Cell → Option Direction
  outEdges : Graph → Cell → List (Cell × Direction)

namespace GraphLibrary

/-- What a library of graphs promises. -/
structure Laws (lib : GraphLibrary) : Prop where
  nodes_new : lib.nodes lib.new = []
  mem_nodes_addNode : ∀ G c c', c' ∈ lib.nodes (lib.addNode G c) ↔ c' ∈ lib.nodes G ∨ c' = c
  mem_nodes_addEdge : ∀ G l c,
    c ∈ lib.nodes (lib.addEdge G l) ↔ c ∈ lib.nodes G ∨ c = l.source ∨ c = l.target
  /-- no node is listed twice -/
  nodup_nodes_addNode : ∀ G c, (lib.nodes G).Nodup → (lib.nodes (lib.addNode G c)).Nodup
  nodup_nodes_addEdge : ∀ G l, (lib.nodes G).Nodup → (lib.nodes (lib.addEdge G l)).Nodup
  label?_new : ∀ c e, lib.label? lib.new c e = none
  label?_addNode : ∀ G c' c e, lib.label? (lib.addNode G c') c e = lib.label? G c e
  /-- an edge that is there already takes the new label -/
  label?_addEdge : ∀ G l c e, lib.label? (lib.addEdge G l) c e =
    if (c, e) = l.ends then some l.direction else lib.label? G c e
  mem_outEdges : ∀ G c e d, (e, d) ∈ lib.outEdges G c ↔ lib.label? G c e = some d

variable (lib : GraphLibrary)

/-- A visit of a cell adds the cell and then, direction by direction, the steps from it that stay in
the grid. -/
def visit (s : Snapshot) (G : lib.Graph) (c : Cell) : lib.Graph :=
  Direction.all.foldl
    (fun G d => if s.inBounds (c.neighbour d) then lib.addEdge G ⟨c, d, c.neighbour d⟩ else G)
    (lib.addNode G c)

/-- The graph of a grid: its cells are visited row by row. -/
def graph (s : Snapshot) : lib.Graph := s.cells.foldl (lib.visit s) lib.new

/-- The end of the first edge out of a node that has a label. -/
def towards? (G : lib.Graph) (c : Cell) (d : Direction) : Option Cell :=
  if c ∈ lib.nodes G then ((lib.outEdges G c).find? fun e => e.2 = d).map Prod.fst else none

/-- A list of links says what a graph of a library says: it has the same cells and edges, and leads
to the same cells. -/
structure Keeps (g : Connectivity) (G : lib.Graph) : Prop where
  nodes : (lib.nodes G).Perm g.cells
  edges : ∀ c e d, lib.label? G c e = some d ↔ ⟨c, d, e⟩ ∈ g.links
  towards : ∀ c d, lib.towards? G c d = g.neighbour? c d

/-! ### Two libraries side by side -/

/-- A graph of a library shows what a graph on cells holds. -/
structure Shows (G : lib.Graph) (K : CellGraph) : Prop where
  nodup : (lib.nodes G).Nodup
  mem_nodes : ∀ c, c ∈ lib.nodes G ↔ c ∈ K.nodes
  label? : ∀ c e, lib.label? G c e = K.edges.get? (c, e)

namespace Laws

variable {lib} (hlib : lib.Laws) {G : lib.Graph} {K : CellGraph}

include hlib

theorem shows_new : lib.Shows lib.new .empty where
  nodup := hlib.nodes_new ▸ List.nodup_nil
  mem_nodes c := by rw [hlib.nodes_new]; rfl
  label? c e := hlib.label?_new c e

theorem shows_addNode (h : lib.Shows G K) (c : Cell) :
    lib.Shows (lib.addNode G c) (K.addNode c) where
  nodup := hlib.nodup_nodes_addNode G c h.nodup
  mem_nodes c' := by rw [hlib.mem_nodes_addNode, CellGraph.mem_nodes_addNode, h.mem_nodes]
  label? c' e := by rw [hlib.label?_addNode, h.label?]; rfl

theorem shows_addEdge (h : lib.Shows G K) (l : Link) :
    lib.Shows (lib.addEdge G l) (K.addEdge l) where
  nodup := hlib.nodup_nodes_addEdge G l h.nodup
  mem_nodes c := by rw [hlib.mem_nodes_addEdge, CellGraph.mem_nodes_addEdge, h.mem_nodes]
  label? c e := by
    rw [hlib.label?_addEdge, CellGraph.addEdge, Table.get?_insert, h.label?]

theorem shows_visit (s : Snapshot) (h : lib.Shows G K) (c : Cell) :
    lib.Shows (lib.visit s G c) (s.visit K c) := by
  have hsteps (ds : List Direction) {G : lib.Graph} {K : CellGraph} (h : lib.Shows G K) :
      lib.Shows
        (ds.foldl (fun G d =>
          if s.inBounds (c.neighbour d) then lib.addEdge G ⟨c, d, c.neighbour d⟩ else G) G)
        (ds.foldl (fun K d =>
          if s.inBounds (c.neighbour d) then K.addEdge ⟨c, d, c.neighbour d⟩ else K) K) := by
    induction ds generalizing G K with
    | nil => exact h
    | cons d ds ih =>
      rw [List.foldl_cons, List.foldl_cons]
      split
      · exact ih (hlib.shows_addEdge h _)
      · exact ih h
  exact hsteps Direction.all (hlib.shows_addNode h c)

/-- **The graph that a library builds up** shows what the graph made of lists holds. -/
theorem shows_graph (s : Snapshot) : lib.Shows (lib.graph s) s.graph := by
  have hvisits (cs : List Cell) {G : lib.Graph} {K : CellGraph} (h : lib.Shows G K) :
      lib.Shows (cs.foldl (lib.visit s) G) (cs.foldl s.visit K) := by
    induction cs generalizing G K with
    | nil => exact h
    | cons c cs ih => exact ih (hlib.shows_visit s h c)
  exact hvisits s.cells hlib.shows_new

end Laws

end GraphLibrary

/-! ### Graphs made of lists -/

namespace CellGraph

/-- Graphs made of lists, as a library. -/
def library : GraphLibrary where
  Graph := CellGraph
  new := empty
  addNode := addNode
  addEdge := addEdge
  nodes := nodes
  label? G c e := G.edges.get? (c, e)
  outEdges G c := (G.edges.entries.filter fun e => e.1.1 = c).map fun e => (e.1.2, e.2)

/-- **Graphs made of lists keep the promises.** -/
theorem laws_library : library.Laws where
  nodes_new := rfl
  mem_nodes_addNode _ _ _ := mem_nodes_addNode
  mem_nodes_addEdge _ _ _ := mem_nodes_addEdge
  nodup_nodes_addNode _ c h := nodup_nodes_addNode h c
  nodup_nodes_addEdge _ l h := nodup_nodes_addEdge h l
  label?_new _ _ := rfl
  label?_addNode _ _ _ _ := rfl
  label?_addEdge G l c e := Table.get?_insert G.edges l.ends l.direction (c, e)
  mem_outEdges G c e d := by
    show (e, d) ∈ List.map _ (G.edges.entries.filter _) ↔ G.edges.get? (c, e) = some d
    rw [List.mem_map]
    constructor
    · rintro ⟨⟨⟨c', e'⟩, d'⟩, hmem, heq⟩
      obtain ⟨hentry, hsource⟩ := List.mem_filter.1 hmem
      obtain ⟨rfl, rfl⟩ := Prod.mk.inj heq
      obtain rfl : c' = c := of_decide_eq_true hsource
      exact Table.get?_eq_some_iff.2 hentry
    · intro h
      exact ⟨((c, e), d), List.mem_filter.2 ⟨Table.get?_eq_some_iff.1 h, decide_eq_true rfl⟩, rfl⟩

end CellGraph

namespace Connectivity

variable {g : Connectivity} {s : Snapshot}

theorem get?_edges_graph_iff {c e : Cell} {d : Direction} :
    s.graph.edges.get? (c, e) = some d ↔ ⟨c, d, e⟩ ∈ s.links := by
  rw [Table.get?_eq_some_iff, s.entries_graph, List.mem_map]
  constructor
  · rintro ⟨l, hl, heq⟩
    cases heq
    exact hl
  · exact fun h => ⟨_, h, rfl⟩

/-- **What the links say, the graph says**, whatever library it is built with. -/
theorem keeps_library_graph {lib : GraphLibrary} (hlib : lib.Laws) (hcells : g.cells = s.cells)
    (hg : g.links = s.links) : lib.Keeps g (lib.graph s) := by
  have hshows := hlib.shows_graph s
  have hnodes (c : Cell) : c ∈ lib.nodes (lib.graph s) ↔ s.inBounds c = true := by
    rw [hshows.mem_nodes, Snapshot.mem_nodes_graph_iff]
  have hedges (c e : Cell) (d : Direction) :
      lib.label? (lib.graph s) c e = some d ↔ ⟨c, d, e⟩ ∈ g.links := by
    rw [hshows.label?, get?_edges_graph_iff, hg]
  refine ⟨?_, hedges, fun c d => ?_⟩
  · refine (List.perm_ext_iff_of_nodup hshows.nodup (hcells ▸ s.nodup_cells)).2 fun c => ?_
    rw [hnodes, hcells, Snapshot.mem_cells_iff]
  · -- An edge with the label leads to the neighbour, so it does not matter which one comes first.
    have hfound {e : Cell × Direction}
        (h : ((lib.outEdges (lib.graph s) c).find? fun e => e.2 = d) = some e) :
        g.neighbour? c d = some e.1 := by
      obtain ⟨e, d'⟩ := e
      obtain rfl : d' = d := by simpa using List.find?_some h
      have hlabel := (hlib.mem_outEdges _ c e d').1 (List.mem_of_find?_eq_some h)
      rw [neighbour?_eq_some_iff hg, ← Snapshot.mem_links_iff, ← hg, ← hedges]
      exact hlabel
    rw [GraphLibrary.towards?]
    split
    · cases hfind : (lib.outEdges (lib.graph s) c).find? fun e => e.2 = d with
      | some e => exact (hfound hfind).symm
      | none =>
        refine (Option.eq_none_iff_forall_ne_some.2 fun e he => ?_).symm
        rw [neighbour?_eq_some_iff hg, ← Snapshot.mem_links_iff, ← hg, ← hedges] at he
        have hnone := List.find?_eq_none.1 hfind (e, d) ((hlib.mem_outEdges _ c e d).2 he)
        exact hnone (decide_eq_true rfl)
    · rename_i hout
      rw [hnodes] at hout
      rw [neighbour?_eq hg, if_neg fun h => hout h.1]

/-- **The graph of a grid is its geometry.** Whatever a domain writes, connectivity has the cells of
the grid and one link for each ordered pair of neighbours, just as many as there are; a cell has a
neighbour in a direction if and only if both lie in the grid, and then it is the cell displaced by
the step. All this is so of the graph that the visit of the grid builds up edge by edge, each pair
of cells with the last label it was given, whatever library of graphs it is built with. -/
theorem exists_build_eq_ok_graph (D : Domain) (s : Snapshot) :
    ∃ g, build D s = .ok g ∧ g.Keeps s.graph ∧
      (∀ lib : GraphLibrary, lib.Laws → lib.Keeps g (lib.graph s)) ∧
      g.cells.Nodup ∧ (∀ c, c ∈ g.cells ↔ s.inBounds c = true) ∧
      g.cells.length = s.width * s.height ∧
      (g.links.map Link.ends).Nodup ∧
      (g.links.length : Int) = 2 * (2 * s.width * s.height - s.width - s.height) ∧
      (∀ c d, g.neighbour? c d =
        if s.inBounds c = true ∧ s.inBounds (c.neighbour d) = true then some (c.neighbour d)
        else none) ∧
      ∀ c d e, g.neighbour? c d = some e ↔ g.neighbour? e d.opposite = some c :=
  ⟨D.connectivityOf s, D.build_eq s, keeps_graph rfl rfl,
    fun _ hlib => keeps_library_graph hlib rfl rfl, s.nodup_cells,
    fun _ => Snapshot.mem_cells_iff, s.length_cells, s.nodup_ends, s.length_links,
    neighbour?_eq rfl, fun _ _ _ => neighbour?_opposite_iff rfl⟩

end Connectivity

end PlayTrace
