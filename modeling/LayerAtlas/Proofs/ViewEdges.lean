import LayerAtlas.Proofs.Lifecycle
import LayerAtlas.Proofs.Visible

/-!
# Edges of a view

A view lists the visible ids that have a node, but it keeps an edge wherever both ends are visible. The
source of an edge always has a node. Its target has one unless the import dangles, and an expansion makes
the targets of dangling imports visible.
-/
namespace LayerAtlas

/-- Whatever calls have filled a graph, its nodes stand under their own ids. -/
theorem GraphCall.selfNamed_foldl_after (calls : List GraphCall) :
    (calls.foldl GraphCall.after .empty).SelfNamed :=
  fun id node found => ((foldl_after_keeps Graph.wellFormed_empty calls).1 id node found).1

/-- A path that leaves its source ends with an import of the node before. -/
theorem Hops.exists_last {graph : Graph} {count : Nat} {source target : String}
    (path : Hops graph (count + 1) source target) :
    ∃ last node, Hops graph count source last ∧ graph.get? last = some node ∧
      target ∈ node.imports := by
  induction count generalizing source with
  | zero =>
    cases path with
    | step found imported rest =>
      cases rest
      exact ⟨source, _, .here source, found, imported⟩
  | succ count ih =>
    cases path with
    | step found imported rest =>
      obtain ⟨last, node, before, standing, leads⟩ := ih rest
      exact ⟨last, node, .step found imported before, standing, leads⟩

variable {graph : Graph} {visible seeds : NameSet} {depth : Nat}

/-- Whatever an expansion adds to its seeds is imported by a node that it reaches as well. -/
theorem exists_importer_of_mem_expand (named : graph.SelfNamed) {id : String}
    (member : id ∈ expand graph seeds depth) :
    id ∈ seeds ∨ ∃ last ∈ expand graph seeds depth, (last, id) ∈ graph.edges := by
  rcases (mem_expand_iff graph seeds depth id).1 member with seed | ⟨count, seed, away, near, chosen, path⟩
  · exact .inl seed
  · obtain ⟨before, rfl⟩ : ∃ before, count = before + 1 := ⟨count - 1, by omega⟩
    obtain ⟨last, node, walked, found, imported⟩ := path.exists_last
    refine .inr ⟨last, (mem_expand_iff graph seeds depth last).2 ?_,
      named.mem_edges_iff.2 ⟨node, found, imported⟩⟩
    cases walked with
    | here => exact .inl chosen
    | step first leaves rest =>
      exact .inr ⟨_, seed, by omega, by omega, chosen, .step first leaves rest⟩

namespace View

/-- Both ends of every edge are ids of listed nodes. -/
def EndsListed (view : View) : Prop :=
  ∀ edge ∈ view.edges, edge.1 ∈ view.ids ∧ edge.2 ∈ view.ids

instance (view : View) : Decidable view.EndsListed :=
  inferInstanceAs (Decidable (∀ edge ∈ view.edges, edge.1 ∈ view.ids ∧ edge.2 ∈ view.ids))

theorem mem_ids_ofGraph (named : graph.SelfNamed) {id : String} :
    id ∈ (ofGraph graph visible).ids ↔ id ∈ visible ∧ graph.contains id = true := by
  simp only [ids, List.mem_map, mem_nodes_ofGraph, Graph.contains_iff]
  constructor
  · rintro ⟨_, ⟨key, shown, node, found, rfl⟩, rfl⟩
    rw [named key node found]
    exact ⟨shown, node, found⟩
  · rintro ⟨shown, node, found⟩
    exact ⟨_, ⟨id, shown, node, found, rfl⟩, named id node found⟩

theorem listed_source (named : graph.SelfNamed) {edge : String × String}
    (member : edge ∈ (ofGraph graph visible).edges) : edge.1 ∈ (ofGraph graph visible).ids := by
  obtain ⟨standing, shown, _⟩ := mem_edges_ofGraph.1 member
  obtain ⟨node, found, _⟩ := named.mem_edges_iff.1 standing
  exact (mem_ids_ofGraph named).2 ⟨shown, Graph.contains_iff.2 ⟨node, found⟩⟩

theorem listed_target_iff (named : graph.SelfNamed) {edge : String × String}
    (member : edge ∈ (ofGraph graph visible).edges) :
    edge.2 ∈ (ofGraph graph visible).ids ↔ graph.contains edge.2 = true := by
  rw [mem_ids_ofGraph named, and_iff_right (mem_edges_ofGraph.1 member).2.2]

theorem endsListed_ofGraph_iff (named : graph.SelfNamed) :
    (ofGraph graph visible).EndsListed ↔
      ∀ edge ∈ graph.edges, edge.1 ∈ visible → edge.2 ∈ visible →
        graph.contains edge.2 = true := by
  constructor
  · intro listed edge standing source target
    have member : edge ∈ (ofGraph graph visible).edges :=
      mem_edges_ofGraph.2 ⟨standing, source, target⟩
    exact (listed_target_iff named member).1 (listed edge member).2
  · intro leads edge member
    obtain ⟨standing, source, target⟩ := mem_edges_ofGraph.1 member
    exact ⟨listed_source named member,
      (listed_target_iff named member).2 (leads edge standing source target)⟩

/-- From nodes, the view of an expansion lists all ends just in case every id that it reaches is a node. -/
theorem endsListed_expand_iff (named : graph.SelfNamed)
    (nodes : ∀ seed ∈ seeds, graph.contains seed = true) :
    (ofGraph graph (expand graph seeds depth)).EndsListed ↔
      ∀ id ∈ expand graph seeds depth, graph.contains id = true := by
  rw [endsListed_ofGraph_iff named]
  constructor
  · intro leads id reached
    rcases exists_importer_of_mem_expand named reached with seed | ⟨last, before, standing⟩
    · exact nodes id seed
    · exact leads (last, id) standing before reached
  · intro present edge _ _ target
    exact present edge.2 target

/-- What a view makes of edges. Every source is listed; a target is listed just in case the graph has a node
under it; and every edge of the graph between two listed nodes is there. So both ends of all edges are
listed just in case no edge of the graph between visible ids dangles; and in the view of what an expansion
reaches from nodes, just in case each id that it reaches is a node. -/
theorem ofGraph_edges_listed (graph : Graph) (named : graph.SelfNamed) :
    (∀ visible : NameSet,
      (∀ edge ∈ (ofGraph graph visible).edges, edge.1 ∈ (ofGraph graph visible).ids ∧
        (edge.2 ∈ (ofGraph graph visible).ids ↔ graph.contains edge.2 = true)) ∧
      (∀ edge ∈ graph.edges, edge.1 ∈ (ofGraph graph visible).ids →
        edge.2 ∈ (ofGraph graph visible).ids → edge ∈ (ofGraph graph visible).edges) ∧
      ((ofGraph graph visible).EndsListed ↔
        ∀ edge ∈ graph.edges, edge.1 ∈ visible → edge.2 ∈ visible →
          graph.contains edge.2 = true)) ∧
    ∀ (seeds : NameSet) (depth : Nat), (∀ seed ∈ seeds, graph.contains seed = true) →
      ((ofGraph graph (expand graph seeds depth)).EndsListed ↔
        ∀ id ∈ expand graph seeds depth, graph.contains id = true) := by
  refine ⟨fun visible => ⟨fun edge member => ?_, ?_, endsListed_ofGraph_iff named⟩,
    fun seeds depth nodes => endsListed_expand_iff named nodes⟩
  · exact ⟨listed_source named member, listed_target_iff named member⟩
  · intro edge standing source target
    exact mem_edges_ofGraph.2
      ⟨standing, ((mem_ids_ofGraph named).1 source).1, ((mem_ids_ofGraph named).1 target).1⟩

/-- A module that imports another and an id without a node. -/
def danglingCalls : List GraphCall :=
  [.insert "cart" ⟨"shop/cart.py"⟩ [.addImport "ghost", .addImport "order"],
    .insert "order" ⟨"shop/order.py"⟩ []]

def danglingGraph : Graph :=
  danglingCalls.foldl GraphCall.after .empty

theorem ofGraph_edges_listed_cart :
    danglingGraph.SelfNamed ∧ danglingGraph.contains "ghost" = false ∧
      (ofGraph danglingGraph (.ofList ["cart", "order"])).EndsListed ∧
      ¬ (ofGraph danglingGraph (expand danglingGraph (.ofList ["cart"]) 1)).EndsListed := by
  have named : danglingGraph.SelfNamed := GraphCall.selfNamed_foldl_after danglingCalls
  obtain ⟨views, expansions⟩ := ofGraph_edges_listed danglingGraph named
  have ghostless : danglingGraph.contains "ghost" = false := by decide +kernel
  have nodes : ∀ seed ∈ NameSet.ofList ["cart"], danglingGraph.contains seed = true := by
    intro seed member
    obtain rfl : seed = "cart" := by simpa using member
    decide +kernel
  refine ⟨named, ghostless, (views _).2.2.2 (by decide +kernel), fun listed => ?_⟩
  have reached : danglingGraph.contains "ghost" = true :=
    (expansions _ 1 nodes).1 listed "ghost" (by decide +kernel)
  rw [ghostless] at reached
  cases reached

/-- The ghost is no node of the view, and still the target of one of its edges. -/
theorem dangling_edge_shown :
    (ofGraph danglingGraph (expand danglingGraph (.ofList ["cart"]) 1)).ids = ["cart", "order"] ∧
      (ofGraph danglingGraph (expand danglingGraph (.ofList ["cart"]) 1)).edges =
        [("cart", "ghost"), ("cart", "order")] ∧
      ¬ ∀ (graph : Graph) (visible : NameSet), (ofGraph graph visible).EndsListed := by
  have unlisted : ¬ (ofGraph danglingGraph (expand danglingGraph (.ofList ["cart"]) 1)).EndsListed := by
    decide +kernel
  exact ⟨by decide +kernel, by decide +kernel, fun listed => unlisted (listed _ _)⟩

end View

end LayerAtlas
