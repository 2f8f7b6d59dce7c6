import LayerAtlas.Proofs.Graph
import LayerAtlas.Proofs.Origin
import LayerAtlas.Proofs.Registration
import LayerAtlas.SourceText.Imports
import Mathlib.Algebra.Ring.Nat

/-!
# Linked graphs

Every way in which an imported name is resolved ends at a key of the registry, so the edges of a linked
graph lead to its own nodes. Each imported name counts once, as resolved or as dropped, and gives at
most one edge.
-/
namespace LayerAtlas

namespace Node

/-- An import added to a node changes nothing but the imports, and those not by the node itself. -/
theorem addImport_spec (node : Node) (added : String) :
    ∃ imports, node.addImport added = { node with imports := imports } ∧
      imports.names.length ≤ node.imports.names.length + 1 ∧
      ∀ target, target ∈ imports ↔ (target = added ∧ target ≠ node.id) ∨ target ∈ node.imports := by
  by_cases self : added = node.id
  · refine ⟨node.imports, by simp [addImport, self], Nat.le_succ _, fun target => ?_⟩
    constructor
    · exact .inr
    · rintro (⟨rfl, other⟩ | old)
      · exact absurd self other
      · exact old
  · refine ⟨node.imports.insert added, by simp [addImport, self],
      NameSet.length_insertName_le added node.imports.names, fun target => ?_⟩
    rw [NameSet.mem_insert]
    constructor
    · rintro (rfl | old)
      · exact .inl ⟨rfl, self⟩
      · exact .inr old
    · exact Or.imp_left And.left

/-- Imports added one after the other are those of the list, the node itself apart. -/
theorem foldl_addImport (node : Node) (targets : List String) :
    ∃ imports, targets.foldl addImport node = { node with imports := imports } ∧
      imports.names.length ≤ node.imports.names.length + targets.length ∧
      ∀ target, target ∈ imports ↔
        (target ∈ targets ∧ target ≠ node.id) ∨ target ∈ node.imports := by
  induction targets generalizing node with
  | nil => exact ⟨node.imports, rfl, Nat.le_refl _, by simp⟩
  | cons head tail ih =>
    obtain ⟨first, added, one, members⟩ := node.addImport_spec head
    obtain ⟨imports, equal, rest, others⟩ := ih { node with imports := first }
    dsimp only at equal rest others
    refine ⟨imports, by rw [List.foldl_cons, added, equal], ?_, fun target => ?_⟩
    · rw [List.length_cons]
      omega
    · rw [others, members, List.mem_cons, or_and_right, or_left_comm, or_assoc]

end Node

/-- What linking has made of the modules so far: the graph, and how many imported names were resolved and
dropped. -/
structure Linked where
  graph : Graph
  resolved : Nat
  dropped : Nat

namespace Registry

variable {registry : Registry} {module : ScannedModule} {record : ImportRecord}

/-- Each of the ways to resolve a name ends at a key: the imported module itself, a module below it,
or the origin of a symbol. -/
theorem isKey_of_nameTarget {name target : String}
    (found : registry.nameTarget record name = some target) : registry.IsKey target := by
  unfold nameTarget at found
  dsimp only at found
  split at found
  · exact isKey_of_resolveModule found
  · split at found
    · next child below =>
      cases found
      exact isKey_of_resolveSubmodule below
    · obtain ⟨base, resolved, rfl⟩ := Option.map_eq_some_iff.1 found
      have key := isKey_of_resolveModule resolved
      have registered : registry.contains base = true := by
        rw [contains, show registry.lookup base = some base from key, Option.isSome_some]
      exact isKey_origin registered name

theorem isKey_of_mem_targets {target : String} (member : some target ∈ registry.targets record) :
    registry.IsKey target := by
  unfold targets at member
  split at member
  · exact isKey_of_resolveModule (List.mem_singleton.1 member).symm
  · obtain ⟨name, _, found⟩ := List.mem_map.1 member
    exact isKey_of_nameTarget found

theorem isKey_of_mem_moduleTargets {target : String}
    (member : some target ∈ registry.moduleTargets module) : registry.IsKey target := by
  obtain ⟨record, _, found⟩ := List.mem_flatMap.1 member
  exact isKey_of_mem_targets found

/-- An import counts once for each of its names, and once if it has none. -/
theorem length_targets (registry : Registry) (record : ImportRecord) :
    (registry.targets record).length = max 1 record.names.length := by
  unfold targets
  split
  · next whole =>
    rw [List.isEmpty_iff.1 whole]
    rfl
  · next named =>
    have some : record.names ≠ [] := fun empty => named (by simp [empty])
    have positive := List.length_pos_iff.2 some
    rw [List.length_map]
    omega

theorem length_allTargets (registry : Registry) :
    registry.allTargets.length =
      ((registry.modules.values.flatMap (·.imports)).map fun record =>
        max 1 record.names.length).sum := by
  have flat : registry.allTargets =
      (registry.modules.values.flatMap (·.imports)).flatMap registry.targets := by
    rw [List.flatMap_assoc]
    rfl
  rw [flat, List.length_flatMap]
  simp only [length_targets]

/-- A linked node is the module with an edge to every other module behind its imports. -/
theorem linkedNode_spec (registry : Registry) (module : ScannedModule) :
    ∃ imports, registry.linkedNode module =
        ⟨module.name, module.path, imports, .linked, none⟩ ∧
      imports.names.length ≤ (registry.moduleTargets module).countP Option.isSome ∧
      ∀ target, target ∈ imports ↔
        some target ∈ registry.moduleTargets module ∧ target ≠ module.name := by
  obtain ⟨imports, equal, bound, members⟩ :=
    Node.foldl_addImport (Node.discovered module.name module.path)
      ((registry.moduleTargets module).filterMap id)
  refine ⟨imports, ?_, ?_, fun target => ?_⟩
  · unfold linkedNode
    dsimp only
    rw [equal]
    rfl
  · rw [List.length_filterMap_eq_countP] at bound
    simpa [Node.discovered, NameSet.empty] using bound
  · rw [members]
    simp [Node.discovered]

theorem get?_linkedGraph (registry : Registry) (id : String) :
    registry.linkedGraph.get? id = (registry.modules.get? id).map registry.linkedNode :=
  Keyed.get?_mapValues registry.linkedNode registry.modules id

theorem contains_linkedGraph (registry : Registry) (id : String) :
    registry.linkedGraph.contains id = registry.modules.contains id := by
  unfold linkedGraph Graph.contains
  rw [Keyed.contains_eq_isSome, Keyed.contains_eq_isSome, Keyed.get?_mapValues, Option.isSome_map]

theorem selfNamed_linkedGraph (named : registry.WellNamed) : registry.linkedGraph.SelfNamed := by
  intro id node found
  rw [get?_linkedGraph] at found
  obtain ⟨module, standing, rfl⟩ := Option.map_eq_some_iff.1 found
  obtain ⟨imports, equal, _, _⟩ := linkedNode_spec registry module
  rw [equal]
  exact (named id module standing).1

theorem closed_linkedGraph (registry : Registry) : registry.linkedGraph.Closed := by
  intro id node found target imported
  rw [get?_linkedGraph] at found
  obtain ⟨module, standing, rfl⟩ := Option.map_eq_some_iff.1 found
  obtain ⟨imports, equal, _, members⟩ := linkedNode_spec registry module
  rw [equal] at imported
  rw [contains_linkedGraph]
  exact (isKey_of_mem_moduleTargets ((members target).1 imported).1).contains

theorem length_edges_le (registry : Registry) :
    registry.linkedGraph.edges.length ≤ registry.allTargets.countP Option.isSome := by
  unfold Graph.edges Graph.nodeList linkedGraph allTargets
  rw [Keyed.values_mapValues]
  induction registry.modules.values with
  | nil => exact Nat.le_refl 0
  | cons head tail ih =>
    obtain ⟨imports, equal, bound, _⟩ := linkedNode_spec registry head
    simp only [List.map_cons, List.flatMap_cons, List.length_append, List.length_map,
      List.countP_append, equal]
    exact Nat.add_le_add bound ih

/-! ## One module after another -/

/-- Links one more module. -/
def linkOne (registry : Registry) (done : Linked) (module : ScannedModule) : Linked where
  graph := done.graph.insert (registry.linkedNode module)
  resolved := done.resolved + (registry.moduleTargets module).countP Option.isSome
  dropped := done.dropped + (registry.moduleTargets module).countP Option.isNone

/-- Links modules in this order. -/
def linkInTurn (registry : Registry) (modules : List ScannedModule) : Linked :=
  modules.foldl registry.linkOne ⟨.empty, 0, 0⟩

/-- Each module has put its node under its name, and counted its targets. -/
theorem foldl_linkOne (registry : Registry) (modules : List ScannedModule) (done : Linked) :
    modules.foldl registry.linkOne done = {
      graph := ⟨(modules.map fun module => (module.name, registry.linkedNode module)).foldl
        (fun nodes entry => nodes.insert entry.1 entry.2) done.graph.nodes⟩
      resolved := done.resolved + (modules.flatMap registry.moduleTargets).countP Option.isSome
      dropped := done.dropped + (modules.flatMap registry.moduleTargets).countP Option.isNone } := by
  induction modules generalizing done with
  | nil => rfl
  | cons module others ih =>
    have name : (registry.linkedNode module).id = module.name := by
      obtain ⟨imports, equal, _, _⟩ := linkedNode_spec registry module
      rw [equal]
    rw [List.foldl_cons, ih]
    simp only [linkOne, Graph.insert, name, List.map_cons, List.foldl_cons, List.flatMap_cons,
      List.countP_append, Nat.add_assoc]

/-- The modules of a registry can be linked in any order. -/
theorem linkInTurn_of_perm (named : registry.WellNamed) {modules : List ScannedModule}
    (order : modules.Perm registry.modules.values) :
    registry.linkInTurn modules = {
      graph := registry.linkedGraph
      resolved := registry.allTargets.countP Option.isSome
      dropped := registry.allTargets.countP Option.isNone } := by
  have entries : (registry.modules.values.map fun module => (module.name, registry.linkedNode module)) =
      registry.linkedGraph.nodes.entries := by
    unfold linkedGraph Keyed.mapValues Keyed.values
    rw [List.map_map]
    refine List.map_congr_left fun entry listed => ?_
    have name := (named entry.1 entry.2 (Keyed.get?_eq_some_iff.2 listed)).1
    exact congrArg (·, registry.linkedNode entry.2) name
  have listed := order.map fun module : ScannedModule => (module.name, registry.linkedNode module)
  rw [entries] at listed
  have targets : (modules.flatMap registry.moduleTargets).Perm registry.allTargets :=
    order.flatMap_right registry.moduleTargets
  unfold linkInTurn
  rw [foldl_linkOne, targets.countP_eq, targets.countP_eq, Nat.zero_add, Nat.zero_add]
  exact congrArg (Linked.mk · _ _) (congrArg Graph.mk (Keyed.ofList_of_perm listed))

end Registry

namespace Build

variable {reader : ImportReader} {root : Path} {rootPackage : Option String} {policy : ParsePolicy}
  {files : List SourceFile} {built : Recorded BuiltGraph}

/-- A build that succeeds has registered its files and linked the registry that they left. -/
theorem run_eq_ok (success : run reader root rootPackage policy files = .ok built) :
    ∃ state, (Registration.start rootPackage).addFiles reader root policy files = .ok state ∧
      Registration.Registered root rootPackage files state.registry ∧
      built.data.graph = state.registry.linkedGraph ∧
      built.data.stats = { state.stats with
        modules := state.registry.size
        resolved := state.registry.allTargets.countP Option.isSome
        dropped := state.registry.allTargets.countP Option.isNone } ∧
      built.errors = state.errors := by
  unfold run at success
  cases registered : (Registration.start rootPackage).addFiles reader root policy files with
  | error fault => simp [registered, bind, Except.bind] at success
  | ok state =>
    simp only [registered, bind, Except.bind, Except.ok.injEq] at success
    subst success
    have done := (Registration.registered_start root rootPackage).addFiles registered
    exact ⟨state, rfl, done, rfl, rfl, rfl⟩

/-- A build gives a closed graph of linked nodes, none of which imports itself, whose ids are the keys
of the files below the root. It counts a module for every node, and every name imported by a module
that kept its key as resolved or as dropped, with no more edges than resolved names. In whatever order the
registered modules are linked, they give this graph and these counters. -/
theorem run_links_registered (success : run reader root rootPackage policy files = .ok built) :
    (∀ edge ∈ built.data.graph.edges, built.data.graph.contains edge.2 = true) ∧
    (∀ node ∈ built.data.graph.nodeList,
      node.id ∉ node.imports ∧ node.status = .linked ∧ node.passport = none) ∧
    (∀ id, id ∈ built.data.graph.ids ↔
      ∃ file ∈ files, file.path.extension? = some (.ofString "py") ∧
        ∃ name, ModulePath.nameOf? root file.path = some name ∧
          id = (Registry.new rootPackage).keyFor name) ∧
    built.data.stats.modules = built.data.graph.size ∧
    (∃ state, (Registration.start rootPackage).addFiles reader root policy files = .ok state ∧
      built.data.stats.resolved + built.data.stats.dropped =
        ((state.registry.modules.values.flatMap (·.imports)).map fun record =>
          max 1 record.names.length).sum ∧
      ∀ modules : List ScannedModule, modules.Perm state.registry.modules.values →
        state.registry.linkInTurn modules =
          ⟨built.data.graph, built.data.stats.resolved, built.data.stats.dropped⟩) ∧
    built.data.graph.edges.length ≤ built.data.stats.resolved := by
  obtain ⟨state, registered, done, graph, stats, _⟩ := run_eq_ok success
  rw [graph, stats]
  refine ⟨?_, ?_, ?_, ?_, ⟨state, registered, ?_, ?_⟩, state.registry.length_edges_le⟩
  · intro edge member
    obtain ⟨node, listed, _, imported⟩ := Graph.mem_edges_iff.1 member
    obtain ⟨id, found⟩ := Graph.mem_nodeList_iff.1 listed
    exact state.registry.closed_linkedGraph id node found edge.2 imported
  · intro node listed
    obtain ⟨id, found⟩ := Graph.mem_nodeList_iff.1 listed
    rw [Registry.get?_linkedGraph] at found
    obtain ⟨module, _, rfl⟩ := Option.map_eq_some_iff.1 found
    obtain ⟨imports, equal, _, members⟩ := state.registry.linkedNode_spec module
    rw [equal]
    exact ⟨fun self => ((members _).1 self).2 rfl, rfl, rfl⟩
  · intro id
    rw [Graph.mem_ids_iff, Registry.contains_linkedGraph, done.keys]
    simp only [Registration.keyOf?_eq_some_iff]
  · exact (Keyed.size_mapValues _ _).symm
  · have missing : state.registry.allTargets.countP Option.isNone =
        state.registry.allTargets.countP fun target => decide ¬ target.isSome = true :=
      List.countP_congr (by simp)
    rw [← Registry.length_allTargets, missing, ← List.length_eq_countP_add_countP]
  · exact fun modules order => Registry.linkInTurn_of_perm done.named order

/-- A package that hands a symbol on from its own module, a user of it, and a file that is no module. -/
def shopFiles : List SourceFile :=
  [.readable ⟨"shop/use.py"⟩ "from crm import Mail, send\nimport os\n",
    .readable ⟨"shop/crm/__init__.py"⟩ "from .mail import Mail\n",
    .readable ⟨"shop/crm/mail.py"⟩ "", .readable ⟨"shop/notes.txt"⟩ "use crm"]

theorem run_links_registered_shop :
    ∃ built, run SourceText.readImports ⟨"shop"⟩ none .abort shopFiles = .ok built ∧
      (∀ edge ∈ built.data.graph.edges, built.data.graph.contains edge.2 = true) ∧
      built.data.stats.modules = built.data.graph.size ∧
      built.data.graph.edges.length ≤ built.data.stats.resolved := by
  have accepted : (run SourceText.readImports ⟨"shop"⟩ none .abort shopFiles).isOk = true := by
    decide +kernel
  cases result : run SourceText.readImports ⟨"shop"⟩ none .abort shopFiles with
  | error fault =>
    rw [result] at accepted
    cases accepted
  | ok built =>
    obtain ⟨closed, _, _, modules, _, edges⟩ := run_links_registered result
    exact ⟨built, rfl, closed, modules, edges⟩

end Build

end LayerAtlas
