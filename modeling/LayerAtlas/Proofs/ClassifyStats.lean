import LayerAtlas.Proofs.Coherence
import LayerAtlas.Proofs.Lifecycle
import Mathlib.Data.List.Basic

/-!
# What classification counts

Classification of a graph counts each node that gets its passport once, under the method that found its
role. The counts are those of a census of the nodes before and after; and since every node has a passport
afterwards, there is nothing to do and nothing to count for a second one.
-/
namespace LayerAtlas

/-- A state that calls on a new node lead to. -/
def Node.Reachable (node : Node) : Prop :=
  ∃ id path, ∃ calls : List NodeCall, calls.foldl NodeCall.after (.discovered id path) = node

theorem Node.Reachable.lawful {node : Node} (reachable : node.Reachable) : node.Lawful := by
  obtain ⟨id, path, calls, rfl⟩ := reachable
  exact (NodeCall.foldl_after_keeps (Node.wellFormed_discovered id path) calls).1.toLawful

/-- One more call leads to a reachable state again. -/
theorem Node.Reachable.apply {node later : Node} (reachable : node.Reachable) {call : NodeCall}
    (success : call.apply node = .ok later) : later.Reachable := by
  obtain ⟨id, path, calls, rfl⟩ := reachable
  refine ⟨id, path, calls ++ [call], ?_⟩
  rw [List.foldl_append, List.foldl_cons, List.foldl_nil, NodeCall.after, success]

/-- All nodes are in states that calls on them lead to. -/
def Graph.Reachable (graph : Graph) : Prop :=
  ∀ id node, graph.get? id = some node → node.Reachable

theorem Graph.Reachable.lawful {graph : Graph} (reachable : graph.Reachable) : graph.Lawful :=
  fun id node found => (reachable id node found).lawful

/-- Calls on a graph make no other states than calls on its nodes. -/
theorem Graph.Reachable.apply {graph later : Graph} (reachable : graph.Reachable) {call : GraphCall}
    (success : call.apply graph = .ok later) : later.Reachable := by
  intro other node found
  cases call with
  | insert id path made =>
    cases success
    rw [get?_insert] at found
    split at found
    · cases found
      exact ⟨id, path, made, rfl⟩
    · exact reachable other node found
  | on id call =>
    rw [GraphCall.apply_on] at success
    obtain ⟨before, moved, standing, taken, look⟩ := update_eq_ok success
    rw [look] at found
    split at found
    · cases found
      exact (reachable id before standing).apply taken
    · exact reachable other node found

theorem Graph.Reachable.after {graph : Graph} (reachable : graph.Reachable) (call : GraphCall) :
    (GraphCall.after graph call).Reachable := by
  unfold GraphCall.after
  cases result : call.apply graph with
  | ok later => exact reachable.apply result
  | error fault => exact reachable

theorem Graph.reachable_empty : empty.Reachable := by
  intro id node found
  cases (Keyed.get?_empty id).symm.trans found

theorem Graph.reachable_foldl_after {graph : Graph} (reachable : graph.Reachable)
    (calls : List GraphCall) : (calls.foldl GraphCall.after graph).Reachable := by
  induction calls generalizing graph with
  | nil => exact reachable
  | cons head tail ih => exact ih (reachable.after head)

/-! Counts. -/

namespace ClassifyStats

/-- Counting nodes one by one adds up to a census of their methods. -/
theorem foldl_count (methods : List MatchMethod) (stats : ClassifyStats) :
    methods.foldl count stats =
      { classified := stats.classified + methods.length
        structural := stats.structural + methods.count .structural
        byName := stats.byName + methods.count .name
        unknown := stats.unknown + methods.count .unknown } := by
  induction methods generalizing stats with
  | nil => rfl
  | cons head tail ih =>
    rw [List.foldl_cons, ih]
    cases head <;> simp [count] <;> omega

end ClassifyStats

/-- Every method is one of the three. -/
theorem MatchMethod.length_eq (methods : List MatchMethod) :
    methods.length = methods.count .structural + methods.count .name + methods.count .unknown := by
  induction methods with
  | nil => rfl
  | cons head tail ih =>
    cases head <;> simp <;> omega

namespace Graph

variable {book : RuleBook} {root : Path} {graph : Graph} {run : ClassifyRun}

/-- The method that finds the role of a node, where it has no passport yet. -/
def newMethod? (book : RuleBook) (root : Path) (node : Node) : Option MatchMethod :=
  if node.passport.isSome then none else some (book.classifyPath root node.path).method

theorem isSome_newMethod? (node : Node) :
    (newMethod? book root node).isSome = node.passport.isNone := by
  unfold newMethod?
  cases node.passport <;> rfl

/-- One id: its node is counted if it had no passport. -/
theorem stats_classifyNode (lawful : run.graph.Lawful) (clean : run.fault = none) (id : String) :
    (classifyNode book root run id).stats =
      ((run.graph.get? id).bind (newMethod? book root)).toList.foldl ClassifyStats.count
        run.stats := by
  unfold classifyNode
  rw [clean]
  cases found : run.graph.get? id with
  | none => rfl
  | some node =>
    dsimp only [Option.bind_some]
    unfold newMethod?
    split
    · rfl
    · next bare =>
      have taken := (lawful id node found).attachPassport (by simpa using bare)
        (book.classifyPath root node.path)
      have updated : ∃ next, run.graph.attachPassport id (book.classifyPath root node.path) =
          .ok next := exists_update found taken
      obtain ⟨next, attached⟩ := updated
      rw [attached]
      rfl

/-- A run over distinct ids counts each node as it was before. -/
theorem stats_foldl_classifyNode (lawful : run.graph.Lawful) (clean : run.fault = none)
    {ids : List String} (nodup : ids.Nodup) :
    (ids.foldl (classifyNode book root) run).stats =
      (ids.filterMap fun id => (run.graph.get? id).bind (newMethod? book root)).foldl
        ClassifyStats.count run.stats := by
  induction ids generalizing run with
  | nil => rfl
  | cons head tail ih =>
    obtain ⟨once, distinct⟩ := List.nodup_cons.1 nodup
    obtain ⟨goesOn, maps⟩ := classifyNode_spec book root lawful clean head
    have untouched : (tail.filterMap fun id =>
        ((classifyNode book root run head).graph.get? id).bind (newMethod? book root)) =
          tail.filterMap fun id => (run.graph.get? id).bind (newMethod? book root) := by
      refine List.filterMap_congr fun id member => ?_
      have other : id ≠ head := fun same => once (same ▸ member)
      rw [maps id]
      simp [other]
    rw [List.foldl_cons, ih (lawful.classifyNode book root clean head) goesOn distinct, untouched,
      stats_classifyNode lawful clean head, ← List.foldl_append]
    cases counted : (run.graph.get? head).bind (newMethod? book root) <;>
      simp [counted]

/-- Classification counts the methods of the nodes without a passport. -/
theorem stats_classify (lawful : graph.Lawful) :
    (graph.classify book root).stats =
      (graph.nodeList.filterMap (newMethod? book root)).foldl ClassifyStats.count {} := by
  have begun : (⟨graph, {}, none⟩ : ClassifyRun).graph.Lawful := lawful
  have counted : (graph.classify book root).stats =
      (graph.ids.filterMap fun id => (graph.get? id).bind (newMethod? book root)).foldl
        ClassifyStats.count {} :=
    stats_foldl_classifyNode begun rfl (nodup_of_increasing graph.nodes.sorted_keys)
  have census : (graph.ids.filterMap fun id => (graph.get? id).bind (newMethod? book root)) =
      graph.nodeList.filterMap (newMethod? book root) := by
    have looked := congrArg (List.filterMap (Option.bind · (newMethod? book root)))
      graph.nodes.map_get?_keys
    rwa [List.filterMap_map, List.filterMap_map] at looked
  exact counted.trans (congrArg (List.foldl _ _) census)

/-- Where every node has a passport there is nothing to do. -/
theorem classify_of_complete
    (complete : ∀ id node, graph.get? id = some node → node.passport.isSome = true) :
    graph.classify book root = ⟨graph, {}, none⟩ := by
  have idle : ∀ id, classifyNode book root ⟨graph, {}, none⟩ id = ⟨graph, {}, none⟩ := by
    intro id
    unfold classifyNode
    cases found : graph.get? id with
    | none => rfl
    | some node => exact if_pos (complete id node found)
  unfold classify
  induction graph.ids with
  | nil => rfl
  | cons head tail ih => rw [List.foldl_cons, idle, ih]

end Graph

theorem Role.isKnown_eq (role : Role) : role.isKnown = !decide (role = .unknown) := by
  cases role <;> rfl

/-- A role is known exactly where a method has found it. -/
theorem RuleBook.Orderly.isResolved_eq {book : RuleBook} (orderly : book.Orderly) (root path : Path) :
    (book.classifyPath root path).isResolved =
      !decide ((book.classifyPath root path).method = .unknown) := by
  have coherent : (book.classifyPath root path).Coherent := by
    unfold classifyPath
    split
    · exact coherent_passport orderly _ _
    · exact coherent_unresolved
  rw [Passport.isResolved, Role.isKnown_eq, decide_eq_decide.2 coherent.unfound]

/-- In a graph that had no passports, a book whose rules name known roles leaves as many nodes with a known
role as it has counted by folder and by name. -/
theorem Graph.classifiedCount_classify {graph : Graph} {book : RuleBook} (lawful : graph.Lawful)
    (orderly : book.Orderly) (root : Path) (bare : ∀ node ∈ graph.nodeList, node.passport = none) :
    (graph.classify book root).stats.structural + (graph.classify book root).stats.byName =
      (graph.classify book root).graph.classifiedCount := by
  have methods : graph.nodeList.filterMap (newMethod? book root) =
      graph.nodeList.map fun node => (book.classifyPath root node.path).method := by
    rw [← List.filterMap_eq_map]
    refine List.filterMap_congr fun node member => ?_
    simp [newMethod?, bare node member]
  have census : ∀ methods : List MatchMethod,
      methods.count .structural + methods.count .name =
        methods.countP fun method => !decide (method = .unknown) := by
    intro methods
    induction methods with
    | nil => rfl
    | cons head tail ih => cases head <;> simp <;> omega
  unfold classifiedCount
  rw [(classify_spec book root lawful).2.nodeList_eq, stats_classify lawful, methods,
    ClassifyStats.foldl_count]
  simp only [Nat.zero_add]
  rw [census, List.countP_map, List.countP_map]
  refine List.countP_congr fun node member => ?_
  simp [Node.isResolved, Node.classifiedBy, bare node member, orderly.isResolved_eq]

/-- What classification does to a node: it gives a passport where there is none and takes nothing back. -/
structure Node.Stamped (book : RuleBook) (root : Path) (node after : Node) : Prop where
  id : after.id = node.id
  path : after.path = node.path
  imports : after.imports = node.imports
  passport : after.passport = some (node.passport.getD (book.classifyPath root node.path))
  forward : node.status.rank ≤ after.status.rank
  classified : Status.classified.rank ≤ after.status.rank

theorem Node.Lawful.stamped {node : Node} (lawful : node.Lawful) (book : RuleBook) (root : Path) :
    node.Stamped book root (node.classifiedBy book root) := by
  cases carried : node.passport with
  | some passport =>
    have same : node.classifiedBy book root = node := by simp [Node.classifiedBy, carried]
    rw [same]
    exact ⟨rfl, rfl, rfl, by rw [carried]; rfl, Nat.le_refl _, lawful.classified (by simp [carried])⟩
  | none =>
    have bare : node.passport.isSome = false := by simp [carried]
    refine ⟨by simp, by simp, by simp, ?_, ?_, ?_⟩
    · simp [Node.classifiedBy, carried]
    · simpa [Node.classifiedBy, bare] using lawful.rank_le_classified bare
    · simp [Node.classifiedBy, bare]

/-- Classification succeeds on every graph whose nodes come from their calls. It keeps all nodes, gives
passports to those without one, and counts just these by method; with the usual rules the known roles of a
graph that had no passports are those found by folder or by name. A second classification, with whatever
rules, changes and counts nothing. -/
theorem Graph.classify_conservative (book : RuleBook) (root : Path) {graph : Graph}
    (reachable : graph.Reachable) :
    let run := graph.classify book root
    run.fault = none ∧ run.graph.ids = graph.ids ∧
    (∀ id node, graph.get? id = some node →
      ∃ after, run.graph.get? id = some after ∧ node.Stamped book root after) ∧
    run.stats.classified = graph.nodeList.countP (·.passport.isNone) ∧
    run.stats.classified = run.stats.structural + run.stats.byName + run.stats.unknown ∧
    (book = .standard → (∀ node ∈ graph.nodeList, node.passport = none) →
      run.stats.structural + run.stats.byName = run.graph.classifiedCount) ∧
    ∀ otherBook otherRoot, run.graph.classify otherBook otherRoot = ⟨run.graph, {}, none⟩ := by
  intro run
  have lawful := reachable.lawful
  obtain ⟨clean, maps⟩ := classify_spec book root lawful
  have stats : run.stats = _ := stats_classify lawful
  rw [ClassifyStats.foldl_count] at stats
  refine ⟨clean, ?_, fun id node found => ?_, ?_, ?_, ?_, ?_⟩
  · unfold ids
    rw [maps.nodes_eq, Keyed.keys_mapValues]
  · refine ⟨_, ?_, (lawful id node found).stamped book root⟩
    rw [maps id, found, Option.map_some]
  · rw [stats, Nat.zero_add, List.length_filterMap_eq_countP]
    simp only [isSome_newMethod?]
  · rw [stats]
    simp only [Nat.zero_add]
    exact MatchMethod.length_eq _
  · intro usual bare
    have offered : book.IsOffered := .inl usual
    exact classifiedCount_classify lawful offered.orderly root bare
  · intro otherBook otherRoot
    refine classify_of_complete fun id node found => ?_
    rw [maps id] at found
    obtain ⟨before, _, rfl⟩ := Option.map_eq_some_iff.1 found
    exact Node.passport_classifiedBy

/-- Of two modules one has come to its end before. -/
theorem Graph.classify_conservative_cart :
    let graph := cartCalls.foldl GraphCall.after .empty
    graph.Reachable ∧ (graph.classify .standard ⟨"shop"⟩).fault = none ∧
      (graph.classify .standard ⟨"shop"⟩).stats.classified = 1 := by
  intro graph
  have reachable : graph.Reachable := reachable_foldl_after reachable_empty cartCalls
  obtain ⟨clean, _, _, classified, _⟩ := classify_conservative .standard ⟨"shop"⟩ reachable
  exact ⟨reachable, clean, classified.trans (by decide)⟩

end LayerAtlas
