import LayerAtlas.Proofs.Expansion.Loop

/-!
# What an expansion reaches

An expansion gives the seeds and all ids within its depth in hops, and its loop ends within as many
steps as there are seeds and nodes, whatever the depth.
-/
namespace LayerAtlas

namespace Expansion

variable {graph : Graph} {seeds : NameSet} {depth floor : Nat} {state : Expansion}

/-- The entries of the queue and the nodes never queued: what the loop can still visit. -/
def pending (graph : Graph) (state : Expansion) : Nat :=
  state.queue.length + (graph.ids.filter fun id => !state.best.contains id).length

theorem pending_follow_le (level : Level floor state) (target : String) :
    pending graph (follow graph floor state target) ≤ pending graph state := by
  rcases follow_cases graph level target with ⟨equal, _⟩ | ⟨equal, _, node, fresh⟩
  · rw [equal]
    exact Nat.le_refl _
  · have waiting : target ∈ graph.ids.filter fun id => !state.best.contains id := by
      simp [Graph.mem_ids_iff, node, Keyed.contains_eq_isSome, fresh]
    have fewer : ((graph.ids.filter fun id => !state.best.contains id).filter
        fun id => decide (id ≠ target)).length <
        (graph.ids.filter fun id => !state.best.contains id).length :=
      List.length_filter_lt_length_iff_exists.2 ⟨target, waiting, by simp⟩
    have same : (graph.ids.filter fun id => !(state.best.insert target floor).contains id) =
        (graph.ids.filter fun id => !state.best.contains id).filter
          fun id => decide (id ≠ target) := by
      rw [List.filter_filter]
      simp [Keyed.contains_insert]
    rw [equal]
    simp only [pending, same, List.length_append, List.length_singleton]
    omega

theorem pending_foldl_follow_le {targets : List String} (level : Level floor state) :
    pending graph (targets.foldl (follow graph floor) state) ≤ pending graph state := by
  induction targets generalizing state with
  | nil => exact Nat.le_refl _
  | cons head tail ih =>
    exact Nat.le_trans (ih (level.follow head)) (pending_follow_le level head)

theorem pending_step_lt {next : Expansion} (valid : Invariant graph seeds depth floor none state)
    (moves : state.step graph = some next) : pending graph next < pending graph state := by
  obtain ⟨id, budget, rest, front, _, _, ends⟩ := step_cases valid.level moves
  have popped : pending graph { state with queue := rest } < pending graph state := by
    simp only [pending, front, List.length_cons]
    omega
  rcases ends with ⟨_, rfl⟩ | ⟨node, _, rfl⟩
  · exact popped
  · exact Nat.lt_of_le_of_lt (pending_foldl_follow_le (valid.pop front).level) popped

theorem step_eq_none_iff : state.step graph = none ↔ state.queue = [] := by
  unfold step
  split
  · next empty => simp [empty]
  · next front =>
    simp only [front, reduceCtorEq, iff_false]
    split
    · simp
    · split <;> simp

/-- The loop has visited everything after as many steps as there was to visit. -/
theorem queue_run_eq_nil {steps : Nat} (valid : Invariant graph seeds depth floor none state)
    (enough : pending graph state ≤ steps) : (state.run graph steps).queue = [] := by
  induction steps generalizing state floor with
  | zero =>
    unfold pending at enough
    exact List.length_eq_zero_iff.1 (by simp only [run]; omega)
  | succ steps ih =>
    unfold run
    cases moves : state.step graph with
    | none => exact step_eq_none_iff.1 moves
    | some next =>
      obtain ⟨lower, kept⟩ := valid.step moves
      have less := pending_step_lt valid moves
      exact ih kept (by omega)

theorem pending_start_le (graph : Graph) (seeds : NameSet) (depth : Nat) :
    pending graph (start seeds depth) ≤ seeds.size + graph.size := by
  have fewer := List.length_filter_le (fun id => !(start seeds depth).best.contains id) graph.ids
  have nodes : graph.ids.length = graph.size := Keyed.length_keys graph.nodes
  have waiting : (start seeds depth).queue.length = seeds.size := by simp [start, NameSet.size]
  unfold pending
  omega

theorem run_of_ended {steps more : Nat} (ended : (state.run graph steps).queue = [])
    (longer : steps ≤ more) : state.run graph more = state.run graph steps := by
  induction steps generalizing state more with
  | zero =>
    have stays : state.step graph = none := step_eq_none_iff.2 ended
    cases more with
    | zero => rfl
    | succ more => simp [run, stays]
  | succ steps ih =>
    obtain ⟨further, rfl⟩ : ∃ further, more = further + 1 := ⟨more - 1, by omega⟩
    unfold run at ended ⊢
    cases moves : state.step graph with
    | none => rfl
    | some next =>
      rw [moves] at ended
      exact ih ended (by omega)

/-- When nothing is left to visit, an id as near as its recorded budget allows has been reached. -/
theorem Invariant.reached_of_hops {count budget : Nat} {id target : String}
    (valid : Invariant graph seeds depth floor none state) (ended : state.queue = [])
    (path : Hops graph count id target) (recorded : state.best.get? id = some budget)
    (away : 1 ≤ count) (near : count ≤ budget) : target ∈ state.reached := by
  -- Along the path, the budget recorded for each node is at least what is left of the way.
  induction path generalizing budget with
  | here => omega
  | @step count id next target node found imported rest ih =>
    rcases valid.settled id budget recorded with impossible | waiting | settled
    · cases impossible
    · simp [ended] at waiting
    · obtain ⟨reached, reason⟩ := settled node found next imported
      cases rest with
      | here => exact reached
      | step foundNext importedNext restNext =>
        have isNode : graph.contains next = true := Graph.contains_iff.2 ⟨_, foundNext⟩
        rcases reason with spent | missing | covered
        · omega
        · rw [isNode] at missing
          cases missing
        · obtain ⟨best, recordedNext, enough⟩ := covers_iff.1 covered
          exact ih recordedNext (by omega) (by omega)

/-- After enough steps the loop has reached the seeds and what lies within the depth. -/
theorem mem_reached_run_iff {steps : Nat} (positive : 1 ≤ depth)
    (enough : seeds.size + graph.size ≤ steps) (id : String) :
    id ∈ ((start seeds depth).run graph steps).reached ↔
      id ∈ seeds ∨ ∃ count seed, 1 ≤ count ∧ count ≤ depth ∧ seed ∈ seeds ∧
        Hops graph count seed id := by
  have begun := invariant_start graph seeds positive
  have ended := queue_run_eq_nil begun (Nat.le_trans (pending_start_le graph seeds depth) enough)
  obtain ⟨lower, valid⟩ := invariant_run begun steps
  constructor
  · exact valid.within id
  · rintro (seed | ⟨count, seed, away, near, member, path⟩)
    · exact (valid.seeded id seed).1
    · exact valid.reached_of_hops ended path (valid.seeded seed member).2 away near

end Expansion

theorem mem_expand_iff (graph : Graph) (seeds : NameSet) (depth : Nat) (id : String) :
    id ∈ expand graph seeds depth ↔
      id ∈ seeds ∨ ∃ count seed, 1 ≤ count ∧ count ≤ depth ∧ seed ∈ seeds ∧
        Hops graph count seed id := by
  unfold expand
  split
  · next zero =>
    constructor
    · exact .inl
    · rintro (seed | ⟨count, _, away, near, _⟩)
      · exact seed
      · omega
  · next positive =>
    have nodes : graph.size ≤ graph.size * depth := Nat.le_mul_of_pos_right _ (by omega)
    exact Expansion.mem_reached_run_iff (by omega) (by omega) id

/-- An expansion is the set of the seeds and of all ids that a path of at most `depth` imports leads
to, with nodes at all its places but the last. Its loop comes to an end after at most as many steps as
there are seeds and nodes, and no budget in its queue is ever zero, so one can always be spent. -/
theorem expand_reaches_hops (graph : Graph) (seeds : NameSet) (depth : Nat) :
    (1 ≤ depth → ∀ steps, ∀ entry ∈ ((Expansion.start seeds depth).run graph steps).queue,
      1 ≤ entry.2) ∧
    (1 ≤ depth → ∀ steps, seeds.size + graph.size ≤ steps →
      ((Expansion.start seeds depth).run graph steps).queue = [] ∧
      ((Expansion.start seeds depth).run graph steps).reached = expand graph seeds depth) ∧
    (depth = 0 → expand graph seeds depth = seeds) ∧
    (∀ id, id ∈ expand graph seeds depth ↔
      id ∈ seeds ∨ ∃ count seed, 1 ≤ count ∧ count ≤ depth ∧ seed ∈ seeds ∧
        Hops graph count seed id) := by
  refine ⟨?_, ?_, ?_, mem_expand_iff graph seeds depth⟩
  · intro positive steps entry waiting
    obtain ⟨lower, valid⟩ := Expansion.invariant_run
      (Expansion.invariant_start graph seeds positive) steps
    exact valid.level.positive entry waiting
  · intro positive steps enough
    have begun := Expansion.invariant_start graph seeds positive
    have ended := Expansion.queue_run_eq_nil begun (Expansion.pending_start_le graph seeds depth)
    have nodes : graph.size ≤ graph.size * depth := Nat.le_mul_of_pos_right _ positive
    have stays : ∀ more, seeds.size + graph.size ≤ more →
        (Expansion.start seeds depth).run graph more =
          (Expansion.start seeds depth).run graph (seeds.size + graph.size) :=
      fun more longer => Expansion.run_of_ended ended longer
    have whole : expand graph seeds depth =
        ((Expansion.start seeds depth).run graph (seeds.size + graph.size)).reached := by
      rw [expand, if_neg (by omega), stays (seeds.size + graph.size * depth + 1) (by omega)]
    rw [stays steps enough, whole]
    exact ⟨ended, rfl⟩
  · intro zero
    simp [expand, zero]

end LayerAtlas
