import LayerAtlas.Classify.Classification
import LayerAtlas.Proofs.Graph

/-!
# What classification changes

Classification gives a passport to every node that has none and marks it classified. It cannot fail on
a graph whose nodes respect the lifecycle, since a node is finalized only with a passport.
-/
namespace LayerAtlas

namespace Node

/-- The lifecycle as a state: a finalized node has a passport, and a passport makes a node at least
classified. -/
structure Lawful (node : Node) : Prop where
  carries : node.status = .finalized → node.passport.isSome = true
  classified : node.passport.isSome = true → Status.classified.rank ≤ node.status.rank

/-- A node as classification leaves it. -/
def classifiedBy (book : RuleBook) (root : Path) (node : Node) : Node :=
  if node.passport.isSome then node
  else { node with status := .classified, passport := some (book.classifyPath root node.path) }

variable {book : RuleBook} {root : Path} {node : Node}

@[simp] theorem id_classifiedBy : (node.classifiedBy book root).id = node.id := by
  unfold classifiedBy
  split <;> rfl

@[simp] theorem imports_classifiedBy : (node.classifiedBy book root).imports = node.imports := by
  unfold classifiedBy
  split <;> rfl

@[simp] theorem path_classifiedBy : (node.classifiedBy book root).path = node.path := by
  unfold classifiedBy
  split <;> rfl

@[simp] theorem passport_classifiedBy :
    (node.classifiedBy book root).passport.isSome = true := by
  unfold classifiedBy
  split
  · next carries => exact carries
  · rfl

theorem classifiedBy_classifiedBy :
    (node.classifiedBy book root).classifiedBy book root = node.classifiedBy book root := by
  rw [classifiedBy, if_pos passport_classifiedBy]

theorem Lawful.classifiedBy (lawful : node.Lawful) : (node.classifiedBy book root).Lawful := by
  unfold Node.classifiedBy
  split
  · exact lawful
  · exact ⟨fun _ => rfl, fun _ => Nat.le_refl _⟩

/-- A node without a passport has not come to the end of its lifecycle. -/
theorem Lawful.rank_le_classified (lawful : node.Lawful) (bare : node.passport.isSome = false) :
    node.status.rank ≤ Status.classified.rank := by
  cases status : node.status with
  | finalized => simp [lawful.carries status] at bare
  | discovered => decide
  | linked => decide
  | classified => decide

/-- A node that respects the lifecycle takes its first passport. -/
theorem Lawful.attachPassport (lawful : node.Lawful) (bare : node.passport.isSome = false)
    (passport : Passport) :
    node.attachPassport passport =
      .ok { node with status := .classified, passport := some passport } := by
  have forward : ¬ Status.classified.rank < node.status.rank :=
    Nat.not_lt.2 (lawful.rank_le_classified bare)
  simp [Node.attachPassport, bare, advance, forward, bind, Except.bind]

end Node

namespace Graph

/-- All nodes respect the lifecycle. -/
def Lawful (graph : Graph) : Prop :=
  ∀ id node, graph.get? id = some node → node.Lawful

/-- One id: its node is classified, and the run goes on. -/
theorem classifyNode_spec (book : RuleBook) (root : Path) {run : ClassifyRun}
    (lawful : run.graph.Lawful) (clean : run.fault = none) (id : String) :
    (classifyNode book root run id).fault = none ∧
      Maps (fun other node => if other = id then node.classifiedBy book root else node)
        run.graph (classifyNode book root run id).graph := by
  have unchanged : (∀ node, run.graph.get? id = some node → node.passport.isSome = true) →
      Maps (fun other node => if other = id then node.classifiedBy book root else node)
        run.graph run.graph := by
    intro carries other
    cases found : run.graph.get? other with
    | none => rfl
    | some node =>
      by_cases same : other = id
      · simp [same, Node.classifiedBy, carries node (same ▸ found)]
      · simp [same]
  unfold classifyNode
  rw [clean]
  cases found : run.graph.get? id with
  | none => exact ⟨clean, unchanged (by simp [found])⟩
  | some node =>
    dsimp only
    split
    · next carries => exact ⟨clean, unchanged (by simp [found, carries])⟩
    · next bare =>
      have taken := (lawful id node found).attachPassport (by simpa using bare)
        (book.classifyPath root node.path)
      have updated : ∃ next, run.graph.attachPassport id (book.classifyPath root node.path) =
          .ok next := exists_update found taken
      obtain ⟨next, attached⟩ := updated
      obtain ⟨before, after, standing, result, look⟩ := update_eq_ok attached
      obtain rfl : node = before := Option.some.inj (found.symm.trans standing)
      obtain rfl := Except.ok.inj (taken.symm.trans result)
      rw [attached]
      refine ⟨rfl, fun other => ?_⟩
      dsimp only
      rw [look]
      by_cases same : other = id
      · subst same
        simp [found, Node.classifiedBy, bare]
      · cases run.graph.get? other <;> simp [same]

theorem Lawful.classifyNode (book : RuleBook) (root : Path) {run : ClassifyRun}
    (lawful : run.graph.Lawful) (clean : run.fault = none) (id : String) :
    (Graph.classifyNode book root run id).graph.Lawful := by
  intro other node found
  rw [(classifyNode_spec book root lawful clean id).2 other] at found
  obtain ⟨before, standing, rfl⟩ := Option.map_eq_some_iff.1 found
  dsimp only
  split
  · exact (lawful other before standing).classifiedBy
  · exact lawful other before standing

theorem foldl_classifyNode_spec (book : RuleBook) (root : Path) {run : ClassifyRun}
    (lawful : run.graph.Lawful) (clean : run.fault = none) (ids : List String) :
    (ids.foldl (classifyNode book root) run).fault = none ∧
      Maps (fun id node => if id ∈ ids then node.classifiedBy book root else node)
        run.graph (ids.foldl (classifyNode book root) run).graph := by
  induction ids generalizing run with
  | nil =>
    refine ⟨clean, fun id => ?_⟩
    rw [List.foldl_nil]
    cases run.graph.get? id <;> simp
  | cons head tail ih =>
    obtain ⟨goesOn, first⟩ := classifyNode_spec book root lawful clean head
    obtain ⟨ended, rest⟩ := ih (lawful.classifyNode book root clean head) goesOn
    refine ⟨ended, fun id => ?_⟩
    rw [List.foldl_cons, rest id, first id]
    cases run.graph.get? id with
    | none => rfl
    | some node =>
      by_cases here : id = head
      · by_cases again : id ∈ tail <;> simp [here, Node.classifiedBy_classifiedBy]
      · by_cases later : id ∈ tail <;> simp [here, later]

/-- A graph whose nodes respect the lifecycle is classified as a whole. -/
theorem classify_spec (book : RuleBook) (root : Path) {graph : Graph} (lawful : graph.Lawful) :
    (graph.classify book root).fault = none ∧
      Maps (fun _ node => node.classifiedBy book root) graph (graph.classify book root).graph := by
  have begun : (⟨graph, {}, none⟩ : ClassifyRun).graph.Lawful := lawful
  obtain ⟨clean, maps⟩ := foldl_classifyNode_spec book root begun rfl graph.ids
  refine ⟨clean, fun id => (maps id).trans ?_⟩
  cases found : graph.get? id with
  | none => rfl
  | some node => simp [mem_ids_iff.2 (contains_iff.2 ⟨node, found⟩)]

end Graph

end LayerAtlas
