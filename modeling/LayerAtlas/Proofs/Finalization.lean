import LayerAtlas.Proofs.Lifecycle
import LayerAtlas.Shape.Finalization

/-!
# What finalization changes

Finalization moves exactly the visible nodes with a passport to the end of their lifecycle and counts
them. No other node and no other field changes. It passes over ids that cannot be finalized, which is
safe since a call that fails writes nothing; and finalizing again changes nothing, since a node may stay
at the end.
-/
namespace LayerAtlas

/-- A node as finalization leaves it. -/
def Node.finalizedIn (visible : List String) (id : String) (node : Node) : Node :=
  if id ∈ visible ∧ node.passport.isSome then { node with status := .finalized } else node

variable {graph : Graph} {node : Node}

@[simp] theorem Node.id_finalizedIn (visible : List String) (id : String) (node : Node) :
    (node.finalizedIn visible id).id = node.id := by
  unfold finalizedIn
  split <;> rfl

@[simp] theorem Node.path_finalizedIn (visible : List String) (id : String) (node : Node) :
    (node.finalizedIn visible id).path = node.path := by
  unfold finalizedIn
  split <;> rfl

@[simp] theorem Node.imports_finalizedIn (visible : List String) (id : String) (node : Node) :
    (node.finalizedIn visible id).imports = node.imports := by
  unfold finalizedIn
  split <;> rfl

@[simp] theorem Node.passport_finalizedIn (visible : List String) (id : String) (node : Node) :
    (node.finalizedIn visible id).passport = node.passport := by
  unfold finalizedIn
  split <;> rfl

theorem Node.finalizedIn_finalizedIn (visible : List String) (id : String) (node : Node) :
    (node.finalizedIn visible id).finalizedIn visible id = node.finalizedIn visible id := by
  unfold finalizedIn
  by_cases moved : id ∈ visible ∧ node.passport.isSome = true <;> simp [moved]

/-- A node can be finalized exactly when it has a passport: no status lies behind the last one. -/
theorem Node.advance_finalized (node : Node) :
    node.advance .finalized =
      if node.passport.isSome then .ok { node with status := .finalized }
      else .error (.missingPassport node.id) := by
  have last : ¬ Status.finalized.rank < node.status.rank := by
    cases node.status <;> decide
  unfold advance
  rw [if_neg last]
  cases node.passport <;> simp

/-- A node is finalized exactly when it is there and has a passport. -/
theorem Graph.advance_finalized_ok {next : Graph} {id : String}
    (success : graph.advance id .finalized = .ok next) :
    Maps (Node.finalizedIn [id]) graph next ∧
      (graph.get? id).any (·.passport.isSome) = true := by
  obtain ⟨node, after, found, taken, look⟩ := update_eq_ok success
  rw [Node.advance_finalized] at taken
  split at taken
  · next carries =>
    cases taken
    refine ⟨fun other => ?_, by simp [found, carries]⟩
    rw [look]
    by_cases same : other = id
    · subst same
      simp [found, Node.finalizedIn, carries]
    · cases graph.get? other <;> simp [same, Node.finalizedIn]
  · cases taken

theorem Graph.advance_finalized_error {fault : LifecycleError} {id : String}
    (failed : graph.advance id .finalized = .error fault) :
    (graph.get? id).any (·.passport.isSome) = false := by
  cases found : graph.get? id with
  | none => rfl
  | some node =>
    cases carries : node.passport.isSome with
    | false => simp [carries]
    | true =>
      have taken : node.advance .finalized = .ok { node with status := .finalized } := by
        rw [Node.advance_finalized, if_pos carries]
      have updated : ∃ next, graph.advance id .finalized = .ok next := exists_update found taken
      obtain ⟨next, impossible⟩ := updated
      rw [impossible] at failed
      cases failed

/-- One id of the visible set: its node is finalized and counted, if there is one with a passport. -/
theorem finalizeOne_spec (graph : Graph) (count : Nat) (id : String) :
    Graph.Maps (Node.finalizedIn [id]) graph (finalizeOne (graph, count) id).1 ∧
      (finalizeOne (graph, count) id).2 =
        count + if (graph.get? id).any (·.passport.isSome) then 1 else 0 := by
  unfold finalizeOne
  cases result : graph.advance id .finalized with
  | ok next =>
    obtain ⟨maps, carries⟩ := Graph.advance_finalized_ok result
    exact ⟨maps, by rw [if_pos carries]⟩
  | error fault =>
    have bare := Graph.advance_finalized_error result
    refine ⟨fun other => ?_, by simp [bare]⟩
    dsimp only
    cases found : graph.get? other with
    | none => rfl
    | some node =>
      by_cases same : other = id
      · subst same
        rw [found, Option.any_some] at bare
        simp [Node.finalizedIn, bare]
      · simp [Node.finalizedIn, same]

theorem foldl_finalizeOne_spec (graph : Graph) (count : Nat) (visible : List String) :
    Graph.Maps (Node.finalizedIn visible) graph (visible.foldl finalizeOne (graph, count)).1 ∧
      (visible.foldl finalizeOne (graph, count)).2 =
        count + visible.countP fun id => (graph.get? id).any (·.passport.isSome) := by
  induction visible generalizing graph count with
  | nil =>
    refine ⟨fun id => ?_, rfl⟩
    rw [List.foldl_nil]
    cases graph.get? id <;> simp [Node.finalizedIn]
  | cons head tail ih =>
    obtain ⟨first, counted⟩ := finalizeOne_spec graph count head
    obtain ⟨maps, total⟩ := ih (finalizeOne (graph, count) head).1 (finalizeOne (graph, count) head).2
    rw [List.foldl_cons]
    refine ⟨fun id => ?_, ?_⟩
    · rw [maps id, first id]
      cases graph.get? id with
      | none => rfl
      | some node =>
        simp only [Option.map_some, Option.some.injEq]
        by_cases carries : node.passport.isSome = true
        · by_cases here : id = head
          · by_cases again : id ∈ tail <;> simp [Node.finalizedIn, carries, here]
          · by_cases later : id ∈ tail <;> simp [Node.finalizedIn, carries, here, later]
        · simp [Node.finalizedIn, carries]
    · have same : ∀ id, ((finalizeOne (graph, count) head).1.get? id).any (·.passport.isSome) =
          (graph.get? id).any (·.passport.isSome) := by
        intro id
        rw [first id]
        cases graph.get? id <;> simp
      rw [total, counted, List.countP_cons]
      simp only [same]
      omega

/-- Finalization changes the status of the visible nodes with a passport, and counts them. -/
theorem finalize_spec (graph : Graph) (visible : NameSet) :
    Graph.Maps (Node.finalizedIn visible.names) graph (finalize graph visible).1 ∧
      (finalize graph visible).2 =
        visible.names.countP fun id => (graph.get? id).any (·.passport.isSome) := by
  obtain ⟨maps, total⟩ := foldl_finalizeOne_spec graph 0 visible.names
  exact ⟨maps, total.trans (Nat.zero_add _)⟩

/-- Which ids can be finalized does not change by finalizing. -/
theorem Graph.Maps.any_passport {next : Graph} {visible : List String}
    (maps : Maps (Node.finalizedIn visible) graph next) (id : String) :
    ((next.get? id).any fun node => node.passport.isSome) =
      (graph.get? id).any fun node => node.passport.isSome := by
  rw [maps id]
  cases graph.get? id <;> simp

theorem finalize_finalize (graph : Graph) (visible : NameSet) :
    finalize (finalize graph visible).1 visible = finalize graph visible := by
  obtain ⟨first, total⟩ := finalize_spec graph visible
  obtain ⟨second, again⟩ := finalize_spec (finalize graph visible).1 visible
  have same : (finalize (finalize graph visible).1 visible).1 = (finalize graph visible).1 := by
    refine Graph.ext_get? fun id => ?_
    rw [second id, first id, Option.map_map]
    cases graph.get? id with
    | none => rfl
    | some node => exact congrArg some (node.finalizedIn_finalizedIn visible.names id)
  refine Prod.ext same ?_
  rw [again, total]
  simp only [first.any_passport]

/-- Finalizes one id by writing into its node. What has been written before an error stays. -/
def finalizeOneInPlace (state : Graph × Nat) (id : String) : Graph × Nat :=
  match (GraphCall.on id (.advance .finalized)).inPlace.run state.1 with
  | .ok _ graph => (graph, state.2 + 1)
  | .error _ left => (left, state.2)

/-- Nothing has been written before an error, so it can be passed over. -/
theorem finalizeOneInPlace_eq : finalizeOneInPlace = finalizeOne := by
  funext state id
  unfold finalizeOneInPlace finalizeOne
  rw [GraphCall.run_inPlace]
  change (match atomic state.1 (state.1.advance id .finalized) with
    | .ok _ graph => (graph, state.2 + 1)
    | .error _ left => (left, state.2)) = _
  cases state.1.advance id .finalized <;> rfl

/-- Finalization, by writing into the nodes or not, moves exactly the visible nodes with a passport to the
end of their lifecycle and counts them. It changes nothing but their status, whatever the states of the
nodes are and whether the visible ids have nodes or not; and doing it again changes nothing and counts the
same. -/
theorem finalize_exactly_visible (graph : Graph) (visible : NameSet) :
    let final := (finalize graph visible).1
    let count := (finalize graph visible).2
    visible.names.foldl finalizeOneInPlace (graph, 0) = (final, count) ∧
    (∀ id, final.contains id = graph.contains id) ∧
    (∀ id node, graph.get? id = some node → id ∈ visible → node.passport.isSome = true →
      final.get? id = some { node with status := .finalized }) ∧
    (∀ id node, graph.get? id = some node → id ∉ visible ∨ node.passport = none →
      final.get? id = some node) ∧
    count = (visible.filter fun id => (graph.get? id).any (·.passport.isSome)).size ∧
    finalize final visible = (final, count) := by
  intro final count
  obtain ⟨maps, total⟩ := finalize_spec graph visible
  refine ⟨?_, maps.contains_eq, ?_, ?_, ?_, finalize_finalize graph visible⟩
  · rw [finalizeOneInPlace_eq]
    rfl
  · intro id node found shown carries
    rw [maps id, found, Option.map_some]
    exact congrArg some (if_pos ⟨shown, carries⟩)
  · intro id node found passed
    rw [maps id, found, Option.map_some]
    refine congrArg some (if_neg ?_)
    rintro ⟨shown, carries⟩
    rcases passed with hidden | bare
    · exact hidden shown
    · simp [bare] at carries
  · exact total.trans List.countP_eq_length_filter

end LayerAtlas
