import LayerAtlas.Graph.Basic
import LayerAtlas.Proofs.Keyed

/-!
# Nodes and edges of a graph

The nodes of a graph through its look-up, what a step under one id does to it, and the two shapes that
a linked graph has: every node stands under its own id, and every import leads to a node.
-/
namespace LayerAtlas.Graph

variable {graph : Graph} {id : String} {node : Node}

theorem contains_iff : graph.contains id = true ↔ ∃ node, graph.get? id = some node :=
  Keyed.contains_iff

theorem mem_ids_iff : id ∈ graph.ids ↔ graph.contains id = true :=
  Keyed.mem_keys_iff

theorem mem_nodeList_iff : node ∈ graph.nodeList ↔ ∃ id, graph.get? id = some node :=
  Keyed.mem_values_iff

theorem mem_edges_iff {edge : String × String} :
    edge ∈ graph.edges ↔ ∃ node ∈ graph.nodeList, node.id = edge.1 ∧ edge.2 ∈ node.imports := by
  simp only [edges, List.mem_flatMap, List.mem_map, NameSet.mem_def]
  constructor
  · rintro ⟨node, member, target, imported, rfl⟩
    exact ⟨node, member, rfl, imported⟩
  · rintro ⟨node, member, same, imported⟩
    exact ⟨node, member, edge.2, imported, by rw [same]⟩

/-- Graphs with the same nodes under the same ids are the same graph. -/
theorem ext_get? {first second : Graph} (same : ∀ id, first.get? id = second.get? id) :
    first = second := by
  have nodes : first.nodes = second.nodes := Keyed.ext_get? same
  cases first
  cases second
  cases nodes
  rfl

/-- An insertion changes what stands under the id of its node only. -/
theorem get?_insert (graph : Graph) (node : Node) (id : String) :
    (graph.insert node).get? id = if id = node.id then some node else graph.get? id :=
  Keyed.get?_insert graph.nodes node.id id node

/-- Every node stands under its own id. -/
def SelfNamed (graph : Graph) : Prop :=
  ∀ id node, graph.get? id = some node → node.id = id

theorem SelfNamed.mem_edges_iff (named : graph.SelfNamed) {edge : String × String} :
    edge ∈ graph.edges ↔ ∃ node, graph.get? edge.1 = some node ∧ edge.2 ∈ node.imports := by
  rw [Graph.mem_edges_iff]
  constructor
  · rintro ⟨node, listed, source, imported⟩
    obtain ⟨id, found⟩ := mem_nodeList_iff.1 listed
    obtain rfl : edge.1 = id := source.symm.trans (named id node found)
    exact ⟨node, found, imported⟩
  · rintro ⟨node, found, imported⟩
    exact ⟨node, mem_nodeList_iff.2 ⟨edge.1, found⟩, named edge.1 node found, imported⟩

/-- Every import leads to a node. -/
def Closed (graph : Graph) : Prop :=
  ∀ id node, graph.get? id = some node → ∀ target ∈ node.imports, graph.contains target = true

/-- A step under an id replaces the node there by what the step makes of it, and nothing else. -/
theorem update_eq_ok {next : Graph} {step : Node → Except LifecycleError Node}
    (success : graph.update id step = .ok next) :
    ∃ node after, graph.get? id = some node ∧ step node = .ok after ∧
      ∀ other, next.get? other = if other = id then some after else graph.get? other := by
  unfold update at success
  split at success
  · cases success
  · next node found =>
    cases result : step node with
    | error fault => simp [result, bind, Except.bind] at success
    | ok after =>
      simp only [result, bind, Except.bind, Except.ok.injEq] at success
      subst success
      refine ⟨node, after, found, result, fun other => ?_⟩
      have look : (graph.nodes.modify id fun _ => after).get? other = _ :=
        Keyed.get?_modify graph.nodes id other fun _ => after
      have here : graph.nodes.get? id = some node := found
      unfold get?
      rw [look]
      split
      · next same => rw [same, here, Option.map_some]
      · rfl

/-- A step that a node takes succeeds under its id. -/
theorem exists_update {step : Node → Except LifecycleError Node} {after : Node}
    (found : graph.get? id = some node) (taken : step node = .ok after) :
    ∃ next, graph.update id step = .ok next := by
  simp [update, found, taken, bind, Except.bind]

/-- `next` has the nodes of `graph` under the same ids, each of them changed by `change`. -/
def Maps (change : String → Node → Node) (graph next : Graph) : Prop :=
  ∀ id, next.get? id = (graph.get? id).map (change id)

namespace Maps

variable {change : String → Node → Node} {next : Graph}

theorem contains_eq (maps : Maps change graph next) (id : String) :
    next.contains id = graph.contains id := by
  have look : (next.get? id).isSome = (graph.get? id).isSome := by
    rw [maps id, Option.isSome_map]
  exact (Keyed.contains_eq_isSome _ _).trans (look.trans (Keyed.contains_eq_isSome _ _).symm)

/-- Where the change does not depend on the id, the nodes are those before, changed one by one. -/
theorem nodes_eq {change : Node → Node} (maps : Maps (fun _ => change) graph next) :
    next.nodes = graph.nodes.mapValues change :=
  Keyed.ext_get? fun id => (maps id).trans (Keyed.get?_mapValues change graph.nodes id).symm

theorem nodeList_eq {change : Node → Node} (maps : Maps (fun _ => change) graph next) :
    next.nodeList = graph.nodeList.map change := by
  unfold nodeList
  rw [maps.nodes_eq, Keyed.values_mapValues]

theorem selfNamed (maps : Maps change graph next) (named : graph.SelfNamed)
    (ids : ∀ id node, (change id node).id = node.id) : next.SelfNamed := by
  intro id node found
  rw [maps id] at found
  obtain ⟨before, standing, rfl⟩ := Option.map_eq_some_iff.1 found
  rw [ids]
  exact named id before standing

theorem closed (maps : Maps change graph next) (closed : graph.Closed)
    (imports : ∀ id node, (change id node).imports = node.imports) : next.Closed := by
  intro id node found target imported
  rw [maps id] at found
  obtain ⟨before, standing, rfl⟩ := Option.map_eq_some_iff.1 found
  rw [imports] at imported
  rw [maps.contains_eq]
  exact closed id before standing target imported

end Maps

end LayerAtlas.Graph
