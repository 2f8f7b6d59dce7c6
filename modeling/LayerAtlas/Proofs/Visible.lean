import LayerAtlas.Graph.View
import LayerAtlas.Proofs.Expansion.Reached
import LayerAtlas.Shape.Focus

/-!
# Visible ids and their view

In a closed graph whose nodes stand under their own ids, everything that a focus or an expansion gives
is a node, and the view of such ids lists each of them.
-/
namespace LayerAtlas

variable {graph : Graph} {visible : NameSet}

theorem mem_initialFocus_iff {request : ViewRequest} {id : String} :
    id ∈ initialFocus graph request ↔
      ∃ node ∈ graph.nodeList, request.selects node = true ∧ node.id = id := by
  simp only [initialFocus, NameSet.mem_ofList, List.mem_map, List.mem_filter, and_assoc]

theorem contains_of_mem_initialFocus (named : graph.SelfNamed) {request : ViewRequest} {id : String}
    (member : id ∈ initialFocus graph request) : graph.contains id = true := by
  obtain ⟨node, listed, _, rfl⟩ := mem_initialFocus_iff.1 member
  obtain ⟨key, found⟩ := Graph.mem_nodeList_iff.1 listed
  rw [named key node found]
  exact Graph.contains_iff.2 ⟨node, found⟩

/-- In a closed graph every path that leaves its source ends at a node. -/
theorem Hops.contains (closed : graph.Closed) {count : Nat} {source target : String}
    (path : Hops graph count source target) (away : 1 ≤ count) : graph.contains target = true := by
  induction path with
  | here => omega
  | @step count source next target node found imported rest ih =>
    cases rest with
    | here => exact closed source node found next imported
    | step _ _ _ => exact ih (by omega)

theorem contains_of_mem_expand (closed : graph.Closed) {seeds : NameSet} {depth : Nat} {id : String}
    (nodes : ∀ seed ∈ seeds, graph.contains seed = true) (member : id ∈ expand graph seeds depth) :
    graph.contains id = true := by
  rcases (mem_expand_iff graph seeds depth id).1 member with seed | ⟨count, _, away, _, _, path⟩
  · exact nodes id seed
  · exact path.contains closed away

namespace View

theorem mem_nodes_ofGraph {entry : ViewNode} :
    entry ∈ (ofGraph graph visible).nodes ↔
      ∃ id ∈ visible, ∃ node, graph.get? id = some node ∧
        ⟨node.id, node.path, node.status, node.passport⟩ = entry := by
  simp only [ofGraph, List.mem_filterMap, Option.map_eq_some_iff, NameSet.mem_def]

theorem mem_edges_ofGraph {edge : String × String} :
    edge ∈ (ofGraph graph visible).edges ↔
      edge ∈ graph.edges ∧ edge.1 ∈ visible ∧ edge.2 ∈ visible := by
  simp only [ofGraph, List.mem_filter, Bool.and_eq_true, NameSet.contains_iff]

/-- A view of ids that all have a node lists these ids, in order. -/
theorem ids_ofGraph (named : graph.SelfNamed)
    (nodes : ∀ id ∈ visible, graph.contains id = true) :
    (ofGraph graph visible).ids = visible.names := by
  have listed : ∀ names : List String, (∀ id ∈ names, graph.contains id = true) →
      (names.filterMap fun id => (graph.get? id).map fun node =>
        (⟨node.id, node.path, node.status, node.passport⟩ : ViewNode)).map (·.id) = names := by
    intro names
    induction names with
    | nil => exact fun _ => rfl
    | cons head tail ih =>
      intro present
      obtain ⟨node, found⟩ := Graph.contains_iff.1 (present head (by simp))
      have rest := ih fun id member => present id (by simp [member])
      simp only [List.filterMap_cons, found, Option.map_some, List.map_cons, rest,
        named head node found]
  exact listed visible.names nodes

end View

end LayerAtlas
