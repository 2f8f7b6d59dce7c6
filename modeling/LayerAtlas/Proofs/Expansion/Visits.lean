import LayerAtlas.Proofs.Expansion.Reached
import Mathlib.Data.List.Perm.Subperm

/-!
# How often an expansion visits a node

The loop is written as if an id could be queued again with a larger budget and an entry be overtaken while it
waits. Neither happens: budgets leave the queue in descending order, so the first one with which an id is
queued is the largest. Every id is queued once at most, and a step visits what was queued; so there are no
more visits than nodes, however large the depth.
-/
namespace LayerAtlas

namespace Expansion

variable {graph : Graph} {seeds : NameSet} {depth floor : Nat} {source : Option String}
  {state : Expansion}

/-- The queue holds distinct ids with at most two budgets, one more than the other and in front of it. Each
budget can be spent and is the one recorded for its id. -/
structure Orderly (state : Expansion) : Prop where
  descending : state.queue.Pairwise fun front back => back.2 ≤ front.2
  close : ∀ entry ∈ state.queue, ∀ other ∈ state.queue, entry.2 ≤ other.2 + 1
  positive : ∀ entry ∈ state.queue, 1 ≤ entry.2
  recorded : ∀ entry ∈ state.queue, state.best.get? entry.1 = some entry.2
  distinct : (state.queue.map (·.1)).Nodup

theorem Level.orderly (level : Level floor state) : Orderly state where
  descending := level.descending
  close := by
    intro entry waiting other behind
    have upper := (level.budgets entry waiting).2
    have lower := (level.budgets other behind).1
    omega
  positive := level.positive
  recorded := level.recorded
  distinct := level.distinct

/-- The entry in front has the budget recorded for it, so it was not overtaken. -/
theorem Level.isSuperseded_eq_false (level : Level floor state) {id : String} {budget : Nat}
    {rest : List (String × Nat)} (front : state.queue = (id, budget) :: rest) :
    state.isSuperseded id budget = false := by
  have recorded := level.recorded (id, budget) (by simp [front])
  simp [isSuperseded, covers, recorded]

/-- The states through which the loop goes: between two steps, and within one step after some of the imports
of the node in front have been followed. -/
inductive Passes (graph : Graph) (seeds : NameSet) (depth : Nat) : Expansion → Prop where
  | between (steps : Nat) : Passes graph seeds depth ((start seeds depth).run graph steps)
  | within (steps : Nat) {id : String} {budget : Nat} {rest : List (String × Nat)} {node : Node}
      {targets : List String} (front : ((start seeds depth).run graph steps).queue = (id, budget) :: rest)
      (found : graph.get? id = some node) (followed : targets <+: node.imports.names) :
      Passes graph seeds depth (targets.foldl (follow graph (budget - 1))
        { (start seeds depth).run graph steps with queue := rest })

theorem Level.foldl_follow {targets : List String} (level : Level floor state) :
    Level floor (targets.foldl (Expansion.follow graph floor) state) := by
  induction targets generalizing state with
  | nil => exact level
  | cons head tail ih => exact ih (level.follow head)

theorem Passes.exists_level (positive : 1 ≤ depth) (passes : Passes graph seeds depth state) :
    ∃ floor, Level floor state := by
  cases passes with
  | between steps =>
    obtain ⟨lower, valid⟩ := invariant_run (invariant_start graph seeds positive) steps
    exact ⟨lower, valid.level⟩
  | within steps front found followed =>
    obtain ⟨lower, valid⟩ := invariant_run (invariant_start graph seeds positive) steps
    exact ⟨_, (valid.pop front).level.foldl_follow⟩

/-! ## What is queued -/

/-- What the given number of steps note, in order. Each step is told by the states before and after it. -/
def log (note : Expansion → Expansion → List String) (graph : Graph) : Nat → Expansion → List String
  | 0, _ => []
  | steps + 1, state =>
    match state.step graph with
    | none => []
    | some next => note state next ++ log note graph steps next

theorem log_succ {note : Expansion → Expansion → List String} {next : Expansion}
    (moves : state.step graph = some next) (steps : Nat) :
    log note graph (steps + 1) state = note state next ++ log note graph steps next := by
  rw [log, moves]

theorem log_of_ended {note : Expansion → Expansion → List String} (ended : state.step graph = none)
    (steps : Nat) : log note graph steps state = [] := by
  cases steps with
  | zero => rfl
  | succ steps => rw [log, ended]

/-- The ids that a step puts into the queue: it takes the entry in front off and puts others behind the rest. -/
def arrivals (before after : Expansion) : List String :=
  (after.queue.drop (before.queue.length - 1)).map (·.1)

/-- The node whose imports a step follows: the one in front, unless it was overtaken. -/
def visit? (graph : Graph) (before : Expansion) : Option String :=
  match before.queue with
  | [] => none
  | (id, budget) :: _ =>
    if before.isSuperseded id budget = false ∧ graph.contains id = true then some id else none

def enqueued (graph : Graph) : Nat → Expansion → List String :=
  log arrivals graph

def visited (graph : Graph) : Nat → Expansion → List String :=
  log (fun before _ => (before.visit? graph).toList) graph

theorem foldl_follow_grows (graph : Graph) (targets : List String) (level : Level floor state) :
    Grows state (targets.foldl (follow graph floor) state) := by
  induction targets generalizing state with
  | nil => exact .refl state
  | cons head tail ih => exact (follow_grows graph level head).trans (ih (level.follow head))

/-- What a later state has not recorded, an earlier one has not either. -/
theorem Grows.unrecorded {later : Expansion} {id : String} (grows : Grows state later)
    (unrecorded : later.best.get? id = none) : state.best.get? id = none := by
  cases recorded : state.best.get? id with
  | none => rfl
  | some budget =>
    rw [grows.best id budget recorded] at unrecorded
    cases unrecorded

/-- Following imports queues distinct ids that were never queued before. -/
theorem exists_queue_foldl_follow (graph : Graph) (targets : List String)
    (level : Level floor state) :
    ∃ fresh : List (String × Nat),
      (targets.foldl (follow graph floor) state).queue = state.queue ++ fresh ∧
      (fresh.map (·.1)).Nodup ∧
      ∀ entry ∈ fresh, state.best.get? entry.1 = none ∧
        (targets.foldl (follow graph floor) state).best.get? entry.1 = some floor := by
  induction targets generalizing state with
  | nil => exact ⟨[], by simp⟩
  | cons head tail ih =>
    have next : Level floor (follow graph floor state head) := level.follow head
    have grows := follow_grows graph level head
    obtain ⟨fresh, queue, distinct, spec⟩ := ih next
    have before : ∀ entry ∈ fresh, state.best.get? entry.1 = none :=
      fun entry member => grows.unrecorded (spec entry member).1
    rcases follow_cases graph level head with ⟨equal, _⟩ | ⟨equal, _, _, new⟩
    · refine ⟨fresh, ?_, distinct, fun entry member => ⟨before entry member, (spec entry member).2⟩⟩
      rw [List.foldl_cons, queue, equal]
    · have own : (follow graph floor state head).best.get? head = some floor := by
        rw [equal]
        exact Keyed.get?_insert_self _ _ _
      refine ⟨(head, floor) :: fresh, ?_, ?_, ?_⟩
      · rw [List.foldl_cons, queue, equal, List.append_assoc, List.singleton_append]
      · refine List.nodup_cons.2 ⟨?_, distinct⟩
        intro again
        obtain ⟨entry, member, same⟩ := List.mem_map.1 again
        have unrecorded := (spec entry member).1
        rw [same, own] at unrecorded
        cases unrecorded
      · intro entry member
        rcases List.mem_cons.1 member with rfl | behind
        · exact ⟨new, (foldl_follow_grows graph tail next).best head floor own⟩
        · exact ⟨before entry behind, (spec entry behind).2⟩

/-- A step takes the entry in front and puts distinct ids behind the rest that were never queued before. -/
theorem exists_queue_step {next : Expansion} (valid : Invariant graph seeds depth floor none state)
    (moves : state.step graph = some next) :
    ∃ id budget rest fresh, state.queue = (id, budget) :: rest ∧ next.queue = rest ++ fresh ∧
      Grows state next ∧ (fresh.map (·.1)).Nodup ∧
      ∀ entry ∈ fresh, state.best.get? entry.1 = none ∧ next.best.get? entry.1 ≠ none := by
  obtain ⟨id, budget, rest, front, _, _, ends⟩ := step_cases valid.level moves
  have popped := (valid.pop front).level
  rcases ends with ⟨_, rfl⟩ | ⟨node, _, rfl⟩
  · exact ⟨id, budget, rest, [], front, by simp, ⟨fun _ member => member, fun _ _ found => found⟩,
      by simp, by simp⟩
  · obtain ⟨fresh, queue, distinct, spec⟩ :=
      exists_queue_foldl_follow graph node.imports.names popped
    have grows := foldl_follow_grows graph node.imports.names popped
    refine ⟨id, budget, rest, fresh, front, queue, ⟨grows.reached, grows.best⟩, distinct, ?_⟩
    intro entry member
    obtain ⟨new, recorded⟩ := spec entry member
    exact ⟨new, by simp [recorded]⟩

theorem arrivals_eq {next : Expansion} {entry : String × Nat} {rest fresh : List (String × Nat)}
    (front : state.queue = entry :: rest) (queue : next.queue = rest ++ fresh) :
    arrivals state next = fresh.map (·.1) := by
  simp [arrivals, front, queue]

/-- A step changes the queue by taking the id in front off and by its arrivals. -/
theorem ids_queue_step {next : Expansion} (valid : Invariant graph seeds depth floor none state)
    (moves : state.step graph = some next) :
    next.queue.map (·.1) = (state.queue.map (·.1)).tail ++ arrivals state next := by
  obtain ⟨id, budget, rest, fresh, front, queue, _⟩ := exists_queue_step valid moves
  rw [arrivals_eq front queue, front, queue, List.map_append, List.map_cons, List.tail_cons]

/-- What later steps queue is not recorded yet, and they queue it once only. -/
theorem enqueued_spec (valid : Invariant graph seeds depth floor none state) (steps : Nat) :
    (enqueued graph steps state).Nodup ∧
      ∀ id ∈ enqueued graph steps state, state.best.get? id = none := by
  induction steps generalizing state floor with
  | zero => simp [enqueued, log]
  | succ steps ih =>
    cases moves : state.step graph with
    | none => simp [enqueued, log_of_ended moves]
    | some next =>
      obtain ⟨lower, kept⟩ := valid.step moves
      obtain ⟨id, budget, rest, fresh, front, queue, grows, distinct, spec⟩ :=
        exists_queue_step valid moves
      obtain ⟨laterDistinct, laterNew⟩ := ih kept
      rw [enqueued, log_succ moves, arrivals_eq front queue]
      refine ⟨List.nodup_append.2 ⟨distinct, laterDistinct, ?_⟩, ?_⟩
      · rintro other early _ late rfl
        obtain ⟨entry, member, rfl⟩ := List.mem_map.1 early
        exact (spec entry member).2 (laterNew entry.1 late)
      · intro other member
        rcases List.mem_append.1 member with early | late
        · obtain ⟨entry, listed, rfl⟩ := List.mem_map.1 early
          exact (spec entry listed).1
        · exact grows.unrecorded (laterNew other late)

/-! ## What is visited -/

theorem visit?_eq_some {id : String} (visits : state.visit? graph = some id) :
    graph.contains id = true ∧ ∃ budget rest, state.queue = (id, budget) :: rest := by
  unfold visit? at visits
  split at visits
  · cases visits
  · next front =>
    rw [Option.ite_none_right_eq_some] at visits
    obtain ⟨⟨_, node⟩, same⟩ := visits
    cases same
    exact ⟨node, _, _, front⟩

/-- Ids are visited in the order in which they were queued. -/
theorem sublist_visited (valid : Invariant graph seeds depth floor none state) (steps : Nat) :
    (visited graph steps state).Sublist (state.queue.map (·.1) ++ enqueued graph steps state) := by
  induction steps generalizing state floor with
  | zero => simp [visited, log]
  | succ steps ih =>
    cases moves : state.step graph with
    | none => simp [visited, log_of_ended moves]
    | some next =>
      obtain ⟨lower, kept⟩ := valid.step moves
      have later := ih kept
      rw [ids_queue_step valid moves, List.append_assoc] at later
      obtain ⟨id, budget, rest, front, _⟩ := step_cases valid.level moves
      have here : (state.visit? graph).toList.Sublist [id] := by
        cases visits : state.visit? graph with
        | none => exact List.nil_sublist _
        | some other =>
          obtain ⟨_, _, _, same⟩ := visit?_eq_some visits
          obtain ⟨⟨⟩, _⟩ := List.cons.inj (front.symm.trans same)
          exact .refl _
      rw [front] at later
      rw [visited, enqueued, log_succ moves, log_succ moves, front]
      exact here.append later

theorem contains_of_mem_visited {steps : Nat} {id : String} (member : id ∈ visited graph steps state) :
    graph.contains id = true := by
  induction steps generalizing state with
  | zero => simp [visited, log] at member
  | succ steps ih =>
    cases moves : state.step graph with
    | none => simp [visited, log_of_ended moves] at member
    | some next =>
      rw [visited, log_succ moves, List.mem_append, Option.mem_toList] at member
      rcases member with here | later
      · exact (visit?_eq_some here).1
      · exact ih later

/-- From the start on, no id is queued twice. -/
theorem nodup_queued (graph : Graph) (seeds : NameSet) (positive : 1 ≤ depth) (steps : Nat) :
    (seeds.names ++ enqueued graph steps (start seeds depth)).Nodup := by
  have begun := invariant_start graph seeds positive
  obtain ⟨distinct, new⟩ := enqueued_spec begun steps
  refine List.nodup_append.2 ⟨seeds.nodup_names, distinct, ?_⟩
  rintro id seed _ later rfl
  have unrecorded := new id later
  rw [(begun.seeded id seed).2] at unrecorded
  cases unrecorded

theorem nodup_visited (graph : Graph) (seeds : NameSet) (positive : 1 ≤ depth) (steps : Nat) :
    (visited graph steps (start seeds depth)).Nodup := by
  have waiting : (start seeds depth).queue.map (·.1) = seeds.names := by
    simp [start, Function.comp_def]
  have inOrder := sublist_visited (invariant_start graph seeds positive) steps
  rw [waiting] at inOrder
  exact (nodup_queued graph seeds positive steps).sublist inOrder

end Expansion

open Expansion in
/-- An expansion visits each node at most once. In every state through which its loop goes, within its steps
too, the queue is orderly: its budgets descend, differ by one at most, are at least one and are those recorded
for their ids. No id is queued twice in the whole run, the entry in front was never overtaken, and the visits
are to different nodes; so there are no more of them than the graph has nodes, whatever the depth. -/
theorem expand_visits_once (graph : Graph) (seeds : NameSet) {depth : Nat} (positive : 1 ≤ depth) :
    (∀ state, Passes graph seeds depth state → Orderly state) ∧
    ∀ steps,
      (seeds.names ++ enqueued graph steps (start seeds depth)).Nodup ∧
      (∀ id budget rest, ((start seeds depth).run graph steps).queue = (id, budget) :: rest →
        ((start seeds depth).run graph steps).isSuperseded id budget = false) ∧
      (visited graph steps (start seeds depth)).Nodup ∧
      (visited graph steps (start seeds depth)).length ≤ graph.size := by
  constructor
  · intro state passes
    obtain ⟨floor, level⟩ := passes.exists_level positive
    exact level.orderly
  · intro steps
    have distinct := nodup_visited graph seeds positive steps
    refine ⟨nodup_queued graph seeds positive steps, ?_, distinct, ?_⟩
    · intro id budget rest front
      have here : Passes graph seeds depth ((start seeds depth).run graph steps) := .between steps
      obtain ⟨floor, level⟩ := here.exists_level positive
      exact level.isSuperseded_eq_false front
    · have nodes : graph.ids.length = graph.size := Keyed.length_keys graph.nodes
      rw [← nodes]
      have nodesOnly : visited graph steps (start seeds depth) ⊆ graph.ids := fun id member =>
        Graph.mem_ids_iff.2 (contains_of_mem_visited member)
      exact (distinct.subperm nodesOnly).length_le

/-- A ring of modules with a shorter way through it and an id without a node. -/
def ringGraph : Graph :=
  [("app", ["cart", "order"]), ("cart", ["order", "app"]), ("order", ["cart", "ghost"])].foldl
    (fun graph module =>
      graph.insert (module.2.foldl Node.addImport (.discovered module.1 ⟨module.1 ++ ".py"⟩)))
    .empty

theorem expand_visits_once_ring :
    1 ≤ 4294967295 ∧
      Expansion.visited ringGraph 9 (Expansion.start (.ofList ["order", "app"]) 4294967295) =
        ["app", "order", "cart"] ∧
      (Expansion.visited ringGraph 9 (Expansion.start (.ofList ["order", "app"]) 4294967295)).length ≤
        ringGraph.size := by
  have positive : 1 ≤ 4294967295 := by decide
  obtain ⟨_, runs⟩ := expand_visits_once ringGraph (.ofList ["order", "app"]) positive
  exact ⟨positive, by decide +kernel, (runs 9).2.2.2⟩

end LayerAtlas
