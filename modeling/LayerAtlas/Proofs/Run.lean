import LayerAtlas.Pipeline
import LayerAtlas.Proofs.Classification
import LayerAtlas.Proofs.Finalization
import LayerAtlas.Proofs.Linking
import LayerAtlas.Proofs.Visible

/-!
# What a run produces

The stages of a run tied together: a build gives a closed graph of linked nodes, classification gives
each of them a passport, and finalization takes exactly the visible ones to the end of their lifecycle.
So the view of a run drops no id and no edge between ids that it shows.
-/
namespace LayerAtlas

theorem Registry.lawful_linkedGraph (registry : Registry) : registry.linkedGraph.Lawful := by
  intro id node found
  rw [get?_linkedGraph] at found
  obtain ⟨module, _, rfl⟩ := Option.map_eq_some_iff.1 found
  obtain ⟨imports, equal, _, _⟩ := linkedNode_spec registry module
  rw [equal]
  exact ⟨by simp, by simp⟩

/-- What the build and the classification of a run leave: a closed graph of classified nodes, each with
a passport and under its own id. -/
structure Graph.Classified (graph : Graph) : Prop where
  named : graph.SelfNamed
  closed : graph.Closed
  nodes : ∀ id node, graph.get? id = some node →
    node.passport.isSome = true ∧ node.status = .classified

theorem Registry.classified_linkedGraph {registry : Registry} (named : registry.WellNamed)
    (book : RuleBook) (root : Path) :
    Graph.Classified (registry.linkedGraph.classify book root).graph := by
  obtain ⟨_, maps⟩ := Graph.classify_spec book root registry.lawful_linkedGraph
  refine ⟨maps.selfNamed (selfNamed_linkedGraph named) fun _ _ => Node.id_classifiedBy,
    maps.closed registry.closed_linkedGraph fun _ _ => Node.imports_classifiedBy, ?_⟩
  intro id node found
  rw [maps id, get?_linkedGraph, Option.map_map] at found
  obtain ⟨module, _, rfl⟩ := Option.map_eq_some_iff.1 found
  obtain ⟨imports, equal, _, _⟩ := linkedNode_spec registry module
  simp [equal, Node.classifiedBy]

/-- After the finalization of a classified graph the status of a node tells whether it is visible. -/
theorem Graph.Classified.status_finalized {graph next : Graph} {visible : NameSet}
    (classified : graph.Classified) (maps : Maps (Node.finalizedIn visible.names) graph next)
    {id : String} {node : Node} (found : next.get? id = some node) :
    node.passport.isSome = true ∧ (node.status = .finalized ↔ id ∈ visible) ∧
      (node.status = .classified ↔ id ∉ visible) := by
  rw [maps id] at found
  obtain ⟨before, standing, rfl⟩ := Option.map_eq_some_iff.1 found
  obtain ⟨carries, status⟩ := classified.nodes id before standing
  rw [Node.passport_finalizedIn, NameSet.mem_def]
  refine ⟨carries, ?_⟩
  by_cases shown : id ∈ visible.names
  · simp [Node.finalizedIn, shown, carries]
  · simp [Node.finalizedIn, shown, status]

/-- Where every visible id has a node, each of them can be finalized. -/
theorem Graph.Classified.countP_passport {graph : Graph} (classified : graph.Classified)
    {visible : NameSet} (nodes : ∀ id ∈ visible, graph.contains id = true) :
    (visible.names.countP fun id => (graph.get? id).any (·.passport.isSome)) = visible.size := by
  apply List.countP_eq_length.2
  intro id member
  obtain ⟨node, found⟩ := Graph.contains_iff.1 (nodes id member)
  rw [found]
  exact (classified.nodes id node found).1

namespace Atlas

variable {reader : ImportReader} {book : RuleBook} {disk : FileSystem} {project : Path}
  {config : Config} {request : ViewRequest} {result : Recorded Atlas}

/-- A run that succeeds has scanned the source root, built a graph of the files, classified all of it, and
finalized and viewed what is visible in it. -/
theorem run_eq_ok (success : run reader book disk project config request = .ok result) :
    ∃ root events built, root = Build.namingRoot disk (config.layout.sourceRoot project) ∧
      Scan.events disk config.scan (config.layout.sourceRoot project) = .ok events ∧
      Build.run reader root (config.layout.rootPackageName? project)
        config.scan.effectiveOnParseError (Scan.files events) = .ok built ∧
      result.data.visible =
        visibleIds (built.data.graph.classify book root).graph (request.anchorFocus root) ∧
      (result.data.graph, result.data.finalized) =
        finalize (built.data.graph.classify book root).graph result.data.visible ∧
      result.data.view = .ofGraph result.data.graph result.data.visible ∧
      result.data.scan = ScanStats.ofEvents events := by
  unfold run at success
  simp only [bind, Except.bind, Except.mapError] at success
  cases scanned : Scan.events disk config.scan (config.layout.sourceRoot project) with
  | error fault =>
    rw [scanned] at success
    cases success
  | ok events =>
    rw [scanned] at success
    dsimp only at success
    split at success
    · cases success
    · next built linked =>
      split at success
      · cases success
      · cases success
        exact ⟨_, events, built, rfl, rfl, linked, rfl, rfl, rfl, rfl⟩

/-- Only the scan and the build can fail: once they have succeeded, so does the run, whatever the rule
book and the request. -/
theorem exists_run {events : List ScanEvent} {built : Recorded BuiltGraph}
    (scanned : Scan.events disk config.scan (config.layout.sourceRoot project) = .ok events)
    (linked : Build.run reader (Build.namingRoot disk (config.layout.sourceRoot project))
      (config.layout.rootPackageName? project) config.scan.effectiveOnParseError
      (Scan.files events) = .ok built) (book : RuleBook) (request : ViewRequest) :
    ∃ result, run reader book disk project config request = .ok result := by
  obtain ⟨state, _, _, graph, _, _⟩ := Build.run_eq_ok linked
  have clean : (built.data.graph.classify book
      (Build.namingRoot disk (config.layout.sourceRoot project))).fault = none := by
    rw [graph]
    exact (Graph.classify_spec book _ state.registry.lawful_linkedGraph).1
  unfold run
  simp [scanned, linked, clean, bind, Except.bind, Except.mapError]

/-- The visible ids of a classified graph all have a node. -/
theorem contains_of_mem_visibleIds {graph : Graph} (classified : graph.Classified)
    (request : ViewRequest) {id : String} (member : id ∈ visibleIds graph request) :
    graph.contains id = true :=
  contains_of_mem_expand classified.closed
    (fun _ seed => contains_of_mem_initialFocus classified.named seed) member

/-- A run finalizes the visible nodes of a classified graph and draws up their view. -/
theorem run_stages (success : run reader book disk project config request = .ok result) :
    ∃ graph : Graph, graph.Classified ∧
      (∀ id ∈ result.data.visible, graph.contains id = true) ∧
      Graph.Maps (Node.finalizedIn result.data.visible.names) graph result.data.graph ∧
      result.data.finalized = result.data.visible.size ∧
      result.data.view = .ofGraph result.data.graph result.data.visible := by
  obtain ⟨root, events, built, _, _, linked, visible, finalized, view, _⟩ := run_eq_ok success
  obtain ⟨state, _, registered, graph, _, _⟩ := Build.run_eq_ok linked
  rw [graph] at visible finalized
  have classified := Registry.classified_linkedGraph registered.named book root
  have nodes : ∀ id ∈ result.data.visible,
      (state.registry.linkedGraph.classify book root).graph.contains id = true := by
    intro id member
    rw [visible] at member
    exact contains_of_mem_visibleIds classified _ member
  obtain ⟨maps, count⟩ := finalize_spec (state.registry.linkedGraph.classify book root).graph
    result.data.visible
  rw [← finalized] at maps count
  exact ⟨_, classified, nodes, maps, count.trans (classified.countP_passport nodes), view⟩

/-- The nodes of a run stand for the modules that registering the scanned files has left, with the passports
of their paths. -/
theorem nodes_of_run (success : run reader book disk project config request = .ok result) :
    ∃ root events state, root = Build.namingRoot disk (config.layout.sourceRoot project) ∧
      Scan.events disk config.scan (config.layout.sourceRoot project) = .ok events ∧
      result.data.scan = ScanStats.ofEvents events ∧
      (Registration.start (config.layout.rootPackageName? project)).addFiles reader root
        config.scan.effectiveOnParseError (Scan.files events) = .ok state ∧
      ∀ id node, result.data.graph.get? id = some node →
        ∃ module, state.registry.modules.get? id = some module ∧ node.path = module.path ∧
          node.passport = some (book.classifyPath root module.path) := by
  obtain ⟨root, events, built, same, scanned, linked, _, finalized, _, counted⟩ := run_eq_ok success
  obtain ⟨state, passed, _, graph, _, _⟩ := Build.run_eq_ok linked
  refine ⟨root, events, state, same, scanned, counted, passed, fun id node found => ?_⟩
  have classifies := (Graph.classify_spec book root state.registry.lawful_linkedGraph).2
  have finalizes := (finalize_spec (state.registry.linkedGraph.classify book root).graph
    result.data.visible).1
  rw [graph] at finalized
  rw [← finalized] at finalizes
  rw [finalizes id, classifies id, Registry.get?_linkedGraph, Option.map_map, Option.map_map] at found
  obtain ⟨module, standing, rfl⟩ := Option.map_eq_some_iff.1 found
  obtain ⟨imports, equal, _, _⟩ := state.registry.linkedNode_spec module
  refine ⟨module, standing, ?_, ?_⟩
  · simp [equal]
  · simp [equal, Node.classifiedBy]

/-- The parts of a run agree. Every visible id has a node; every node has a passport and is finalized if
it is visible and classified if not; the count of finalized nodes is that of visible ids; and the view
lists exactly the visible ids, all finalized and in increasing order, with exactly the edges between
them. -/
theorem run_consistent (success : run reader book disk project config request = .ok result) :
    (∀ id ∈ result.data.visible, result.data.graph.contains id = true) ∧
    (∀ id node, result.data.graph.get? id = some node →
      node.id = id ∧ node.passport.isSome = true ∧
      (node.status = .finalized ↔ id ∈ result.data.visible) ∧
      (node.status = .classified ↔ id ∉ result.data.visible)) ∧
    result.data.finalized = result.data.visible.size ∧
    result.data.view.ids = result.data.visible.names ∧
    result.data.view.ids.Pairwise (· < ·) ∧
    (∀ entry ∈ result.data.view.nodes, entry.status = .finalized) ∧
    (∀ edge, edge ∈ result.data.view.edges ↔
      edge ∈ result.data.graph.edges ∧ edge.1 ∈ result.data.visible ∧
        edge.2 ∈ result.data.visible) := by
  obtain ⟨graph, classified, nodes, maps, count, view⟩ := run_stages success
  have present : ∀ id ∈ result.data.visible, result.data.graph.contains id = true := by
    intro id member
    rw [maps.contains_eq]
    exact nodes id member
  have named : result.data.graph.SelfNamed :=
    maps.selfNamed classified.named fun id node => Node.id_finalizedIn _ id node
  have ids := View.ids_ofGraph named present
  rw [← view] at ids
  refine ⟨present, ?_, count, ids, ids ▸ result.data.visible.sorted, ?_, ?_⟩
  · intro id node found
    exact ⟨named id node found, classified.status_finalized maps found⟩
  · intro entry member
    rw [view] at member
    obtain ⟨id, shown, node, found, rfl⟩ := View.mem_nodes_ofGraph.1 member
    exact (classified.status_finalized maps found).2.1.2 shown
  · intro edge
    rw [view]
    exact View.mem_edges_ofGraph

/-- Two contexts of which the first imports from the second, with a directory that is left out. -/
def shopDisk : FileSystem where
  top := .dir [("srv", .dir [("shop", .dir [("src", .dir [
    (".git", .dir [("hook.py", .file "import".toUTF8)]),
    ("billing", .dir [("domain", .dir [("order.py", .file "import crm.mail\n".toUTF8)])]),
    ("crm", .dir [("mail.py", .file "".toUTF8)])])])])]
  workingDir := ["tmp"]

def shopFiles : List SourceFile :=
  [.readable ⟨"/srv/shop/src/billing/domain/order.py"⟩ "import crm.mail\n",
    .readable ⟨"/srv/shop/src/crm/mail.py"⟩ ""]

def shopConfig : Config := { scan := { onParseError := some .skip } }

def shopRequest : ViewRequest := { contexts := .ofList ["billing"], depth := 1 }

theorem run_consistent_shop :
    ∃ result, run SourceText.readImports .standard shopDisk ⟨"/srv/shop"⟩ shopConfig shopRequest =
        .ok result ∧
      (∀ id ∈ result.data.visible, result.data.graph.contains id = true) ∧
      result.data.finalized = result.data.visible.size ∧
      result.data.view.ids = result.data.visible.names := by
  have scanned : Scan.events shopDisk shopConfig.scan (shopConfig.layout.sourceRoot ⟨"/srv/shop"⟩) =
      .ok (.excludedDir :: shopFiles.map .found) := by decide +kernel
  have accepted : (Build.run SourceText.readImports
      (Build.namingRoot shopDisk (shopConfig.layout.sourceRoot ⟨"/srv/shop"⟩))
      (shopConfig.layout.rootPackageName? ⟨"/srv/shop"⟩) shopConfig.scan.effectiveOnParseError
      (Scan.files (.excludedDir :: shopFiles.map .found))).isOk = true := by decide +kernel
  generalize linked : Build.run _ _ _ _ _ = outcome at accepted
  cases outcome with
  | error fault => cases accepted
  | ok built =>
    obtain ⟨result, success⟩ := exists_run scanned linked .standard shopRequest
    obtain ⟨nodes, _, finalized, ids, _⟩ := run_consistent success
    exact ⟨result, success, nodes, finalized, ids⟩

end Atlas

end LayerAtlas
