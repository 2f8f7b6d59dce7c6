import LayerAtlas.Proofs.Graph
import LayerAtlas.Shape.Expansion

/-!
# The loop of an expansion

What holds of the loop before and after every step. It works level by level: while the entries of one
budget are visited, every queued budget is that one or one less, and nothing was ever queued with less
than that. So an id once queued is covered for the rest of the loop and never queued again, and
passing over covered ids loses nothing.
-/
namespace LayerAtlas

/-- `target` lies this many imports away from `source`. Every id left on the way is a node; the last
one need not be. -/
inductive Hops (graph : Graph) : Nat → String → String → Prop
  | here (id : String) : Hops graph 0 id id
  | step {count : Nat} {source next target : String} {node : Node}
      (found : graph.get? source = some node) (imported : next ∈ node.imports)
      (rest : Hops graph count next target) : Hops graph (count + 1) source target

theorem Hops.snoc {graph : Graph} {count : Nat} {source last target : String} {node : Node}
    (path : Hops graph count source last) (found : graph.get? last = some node)
    (imported : target ∈ node.imports) : Hops graph (count + 1) source target := by
  induction path with
  | here => exact .step found imported (.here _)
  | step first leaves _ ih => exact .step first leaves (ih found)

namespace Expansion

variable {graph : Graph} {seeds : NameSet} {depth floor : Nat} {source : Option String}
  {state : Expansion}

theorem covers_iff {id : String} {budget : Nat} :
    state.covers id budget = true ↔ ∃ best, state.best.get? id = some best ∧ budget ≤ best := by
  unfold covers
  cases state.best.get? id with
  | none => simp
  | some best => simp

/-- The import of `target` has been followed with this budget behind it. -/
def Followed (graph : Graph) (remaining : Nat) (state : Expansion) (target : String) : Prop :=
  target ∈ state.reached ∧
    (remaining = 0 ∨ graph.contains target = false ∨ state.covers target remaining = true)

/-- All imports of an id, if it is a node, have been followed with the rest of this budget. -/
def Settled (graph : Graph) (state : Expansion) (id : String) (budget : Nat) : Prop :=
  ∀ node, graph.get? id = some node → ∀ target ∈ node.imports,
    Followed graph (budget - 1) state target

/-- The queue while entries with budget `floor + 1` are visited. -/
structure Level (floor : Nat) (state : Expansion) : Prop where
  budgets : ∀ entry ∈ state.queue, floor ≤ entry.2 ∧ entry.2 ≤ floor + 1
  positive : ∀ entry ∈ state.queue, 1 ≤ entry.2
  descending : state.queue.Pairwise fun front back => back.2 ≤ front.2
  recorded : ∀ entry ∈ state.queue, state.best.get? entry.1 = some entry.2
  distinct : (state.queue.map (·.1)).Nodup
  floored : ∀ id budget, state.best.get? id = some budget → floor ≤ budget

/-- What holds of the loop between two imports of the node `source`, or between two nodes. Recorded
budgets are what is left of the depth behind some path, and every recorded id waits in the queue or is
settled, except for the one whose imports are being followed. -/
structure Invariant (graph : Graph) (seeds : NameSet) (depth floor : Nat) (source : Option String)
    (state : Expansion) : Prop where
  level : Level floor state
  seeded : ∀ seed ∈ seeds, seed ∈ state.reached ∧ state.best.get? seed = some depth
  near : ∀ id budget, state.best.get? id = some budget →
    ∃ count seed, seed ∈ seeds ∧ Hops graph count seed id ∧ count + budget = depth
  within : ∀ id ∈ state.reached, id ∈ seeds ∨
    ∃ count seed, 1 ≤ count ∧ count ≤ depth ∧ seed ∈ seeds ∧ Hops graph count seed id
  settled : ∀ id budget, state.best.get? id = some budget →
    source = some id ∨ (id, budget) ∈ state.queue ∨ Settled graph state id budget

/-- The later of two states has reached and recorded all that the earlier one has. -/
structure Grows (earlier later : Expansion) : Prop where
  reached : ∀ id ∈ earlier.reached, id ∈ later.reached
  best : ∀ id budget, earlier.best.get? id = some budget → later.best.get? id = some budget

theorem Grows.refl (state : Expansion) : Grows state state :=
  ⟨fun _ member => member, fun _ _ found => found⟩

theorem Grows.trans {first second third : Expansion} (front : Grows first second)
    (back : Grows second third) : Grows first third :=
  ⟨fun id member => back.reached id (front.reached id member),
    fun id budget found => back.best id budget (front.best id budget found)⟩

theorem Followed.grows {remaining : Nat} {later : Expansion} {target : String}
    (followed : Followed graph remaining state target) (grows : Grows state later) :
    Followed graph remaining later target := by
  refine ⟨grows.reached target followed.1, followed.2.imp_right (Or.imp_right ?_)⟩
  intro covered
  obtain ⟨best, found, enough⟩ := covers_iff.1 covered
  exact covers_iff.2 ⟨best, grows.best target best found, enough⟩

theorem Settled.grows {later : Expansion} {id : String} {budget : Nat}
    (settled : Settled graph state id budget) (grows : Grows state later) :
    Settled graph later id budget :=
  fun node found target imported => (settled node found target imported).grows grows

/-- Following an import either only reaches its target or queues it; it queues nodes that were never
queued before, since at this level those are covered. -/
theorem follow_cases (graph : Graph) (level : Level floor state) (target : String) :
    (follow graph floor state target = { state with reached := state.reached.insert target } ∧
      (floor = 0 ∨ graph.contains target = false ∨ state.covers target floor = true)) ∨
    (follow graph floor state target =
        { queue := state.queue ++ [(target, floor)]
          best := state.best.insert target floor
          reached := state.reached.insert target } ∧
      1 ≤ floor ∧ graph.contains target = true ∧ state.best.get? target = none) := by
  by_cases kept : floor = 0 ∨ graph.contains target = false ∨ state.covers target floor = true
  · exact .inl ⟨by simp [follow, kept], kept⟩
  · refine .inr ⟨by simp [follow, kept], ?_⟩
    simp only [not_or, Bool.not_eq_false] at kept
    obtain ⟨positive, node, uncovered⟩ := kept
    refine ⟨by omega, node, ?_⟩
    cases found : state.best.get? target with
    | none => rfl
    | some best =>
      exact absurd (covers_iff.2 ⟨best, found, level.floored target best found⟩) uncovered

theorem follow_grows (graph : Graph) (level : Level floor state) (target : String) :
    Grows state (follow graph floor state target) := by
  rcases follow_cases graph level target with ⟨equal, _⟩ | ⟨equal, _, _, fresh⟩
  · rw [equal]
    exact ⟨fun id member => NameSet.mem_insert.2 (.inr member), fun _ _ found => found⟩
  · rw [equal]
    refine ⟨fun id member => NameSet.mem_insert.2 (.inr member), fun id budget found => ?_⟩
    have other : id ≠ target := by
      rintro rfl
      simp [fresh] at found
    simpa [Keyed.get?_insert_of_ne _ _ other] using found

theorem followed_follow (level : Level floor state) (target : String) :
    Followed graph floor (follow graph floor state target) target := by
  rcases follow_cases graph level target with ⟨equal, kept⟩ | ⟨equal, _, _, _⟩
  · rw [equal]
    exact ⟨NameSet.mem_insert.2 (.inl rfl), kept⟩
  · rw [equal]
    refine ⟨NameSet.mem_insert.2 (.inl rfl), .inr (.inr (covers_iff.2 ⟨floor, ?_, Nat.le_refl _⟩))⟩
    exact Keyed.get?_insert_self _ _ _

theorem Level.follow (level : Level floor state) (target : String) :
    Level floor (follow graph floor state target) := by
  rcases follow_cases graph level target with ⟨equal, _⟩ | ⟨equal, positive, _, fresh⟩
  · rw [equal]
    exact ⟨level.budgets, level.positive, level.descending, level.recorded, level.distinct,
      level.floored⟩
  · have others : ∀ entry ∈ state.queue, entry.1 ≠ target := by
      intro entry member same
      have found := level.recorded entry member
      rw [same, fresh] at found
      cases found
    rw [equal]
    constructor
    case budgets =>
      intro entry member
      rcases List.mem_append.1 member with old | new
      · exact level.budgets entry old
      · obtain rfl := List.mem_singleton.1 new
        exact ⟨Nat.le_refl _, Nat.le_succ _⟩
    case positive =>
      intro entry member
      rcases List.mem_append.1 member with old | new
      · exact level.positive entry old
      · obtain rfl := List.mem_singleton.1 new
        exact positive
    case descending =>
      refine List.pairwise_append.2 ⟨level.descending, List.pairwise_singleton _ _, ?_⟩
      intro front member back new
      obtain rfl := List.mem_singleton.1 new
      exact (level.budgets front member).1
    case recorded =>
      intro entry member
      rcases List.mem_append.1 member with old | new
      · rw [Keyed.get?_insert_of_ne _ _ (others entry old)]
        exact level.recorded entry old
      · obtain rfl := List.mem_singleton.1 new
        exact Keyed.get?_insert_self _ _ _
    case distinct =>
      rw [List.map_append, List.nodup_append]
      refine ⟨level.distinct, by simp, ?_⟩
      intro id member other new same
      obtain ⟨entry, old, rfl⟩ := List.mem_map.1 member
      obtain rfl : other = target := by simpa using new
      exact others entry old same
    case floored =>
      intro id budget found
      rw [Keyed.get?_insert] at found
      split at found
      · cases found
        exact Nat.le_refl _
      · exact level.floored id budget found

@[simp] theorem reached_follow (remaining : Nat) (target : String) :
    (follow graph remaining state target).reached = state.reached.insert target := by
  unfold follow
  dsimp only
  split <;> rfl

theorem mem_queue_follow {remaining : Nat} {target : String} {entry : String × Nat}
    (waiting : entry ∈ state.queue) : entry ∈ (follow graph remaining state target).queue := by
  unfold follow
  dsimp only
  split
  · exact waiting
  · exact List.mem_append_left _ waiting

/-- What following an import records, it queues. -/
theorem recorded_follow {target id : String} {budget : Nat}
    (recorded : (follow graph floor state target).best.get? id = some budget) :
    state.best.get? id = some budget ∨
      (id = target ∧ budget = floor ∧ (id, budget) ∈ (follow graph floor state target).queue) := by
  unfold follow at recorded ⊢
  dsimp only at recorded ⊢
  split at recorded
  · exact .inl recorded
  · rw [Keyed.get?_insert] at recorded
    split at recorded
    · next same =>
      cases recorded
      subst same
      exact .inr ⟨rfl, rfl, by simp [*]⟩
    · exact .inl recorded

/-- One import of the node being visited keeps the invariant. -/
theorem Invariant.follow {id target : String} {node : Node}
    (valid : Invariant graph seeds depth floor (some id) state)
    (visited : state.best.get? id = some (floor + 1)) (found : graph.get? id = some node)
    (imported : target ∈ node.imports) :
    Invariant graph seeds depth floor (some id) (follow graph floor state target) := by
  have grows := follow_grows graph valid.level target
  obtain ⟨count, seed, member, path, total⟩ := valid.near id (floor + 1) visited
  have longer := path.snoc found imported
  constructor
  case level => exact valid.level.follow target
  case seeded =>
    intro seed member
    obtain ⟨reached, recorded⟩ := valid.seeded seed member
    exact ⟨grows.reached seed reached, grows.best seed depth recorded⟩
  case near =>
    intro other budget recorded
    rcases recorded_follow recorded with before | ⟨rfl, rfl, _⟩
    · exact valid.near other budget before
    · exact ⟨count + 1, seed, member, longer, by omega⟩
  case within =>
    intro other reached
    rw [reached_follow, NameSet.mem_insert] at reached
    rcases reached with rfl | before
    · exact .inr ⟨count + 1, seed, by omega, by omega, member, longer⟩
    · exact valid.within other before
  case settled =>
    intro other budget recorded
    rcases recorded_follow recorded with before | ⟨_, _, waiting⟩
    · exact (valid.settled other budget before).imp_right
        (Or.imp mem_queue_follow fun settled => settled.grows grows)
    · exact .inr (.inl waiting)

/-- All imports of the node being visited are followed, one after the other. -/
theorem Invariant.foldl_follow {id : String} {node : Node} {targets : List String}
    (valid : Invariant graph seeds depth floor (some id) state)
    (visited : state.best.get? id = some (floor + 1)) (found : graph.get? id = some node)
    (imported : ∀ target ∈ targets, target ∈ node.imports) :
    Invariant graph seeds depth floor (some id) (targets.foldl (Expansion.follow graph floor) state) ∧
      Grows state (targets.foldl (Expansion.follow graph floor) state) ∧
      ∀ target ∈ targets,
        Followed graph floor (targets.foldl (Expansion.follow graph floor) state) target := by
  induction targets generalizing state with
  | nil => exact ⟨valid, .refl state, by simp⟩
  | cons head tail ih =>
    have first := follow_grows graph valid.level head
    obtain ⟨kept, rest, followed⟩ :=
      ih (valid.follow visited found (imported head (by simp))) (first.best id _ visited)
        fun target member => imported target (by simp [member])
    refine ⟨kept, first.trans rest, ?_⟩
    intro target member
    rcases List.mem_cons.1 member with rfl | behind
    · exact (followed_follow valid.level target).grows rest
    · exact followed target behind

/-- Taking the first entry off the queue opens its id. -/
theorem Invariant.pop {id : String} {budget : Nat} {rest : List (String × Nat)}
    (valid : Invariant graph seeds depth floor none state)
    (front : state.queue = (id, budget) :: rest) :
    Invariant graph seeds depth (budget - 1) (some id) { state with queue := rest } := by
  obtain ⟨level, seeded, near, within, settled⟩ := valid
  obtain ⟨budgets, positive, descending, recorded, distinct, floored⟩ := level
  rw [front] at budgets positive descending recorded distinct settled
  have bounds := budgets (id, budget) (by simp)
  have atLeastOne := positive (id, budget) (by simp)
  -- The queue descends, so nothing behind the head has more budget, and the level may sink by one.
  obtain ⟨largest, descendingRest⟩ := List.pairwise_cons.1 descending
  dsimp only at bounds atLeastOne largest
  refine ⟨⟨?_, ?_, descendingRest, ?_, (List.nodup_cons.1 distinct).2, ?_⟩, seeded, near, within, ?_⟩
  · intro entry member
    have lower := (budgets entry (by simp [member])).1
    have upper := largest entry member
    omega
  · exact fun entry member => positive entry (by simp [member])
  · exact fun entry member => recorded entry (by simp [member])
  · intro other best found
    have lower := floored other best found
    omega
  · intro other best found
    rcases settled other best found with impossible | waiting | done
    · cases impossible
    · rcases List.mem_cons.1 waiting with same | behind
      · cases same
        exact .inl rfl
      · exact .inr (.inl behind)
    · exact .inr (.inr done)

/-- An open id whose imports have all been followed is settled. -/
theorem Invariant.close {id : String} (valid : Invariant graph seeds depth floor (some id) state)
    (done : ∀ budget, state.best.get? id = some budget → Settled graph state id budget) :
    Invariant graph seeds depth floor none state := by
  refine ⟨valid.level, valid.seeded, valid.near, valid.within, ?_⟩
  intro other budget recorded
  rcases valid.settled other budget recorded with same | waiting | settled
  · cases same
    exact .inr (.inr (done budget recorded))
  · exact .inr (.inl waiting)
  · exact .inr (.inr settled)

/-- A step visits the first id of the queue with the budget recorded for it. The branch for overtaken
entries is never taken. -/
theorem step_cases {next : Expansion} (level : Level floor state)
    (moves : state.step graph = some next) :
    ∃ id budget rest, state.queue = (id, budget) :: rest ∧ state.best.get? id = some budget ∧
      1 ≤ budget ∧
      ((graph.get? id = none ∧ next = { state with queue := rest }) ∨
        ∃ node, graph.get? id = some node ∧
          next = node.imports.names.foldl (Expansion.follow graph (budget - 1))
            { state with queue := rest }) := by
  unfold step at moves
  split at moves
  · cases moves
  · next id budget rest front =>
    have recorded := level.recorded (id, budget) (by simp [front])
    have positive := level.positive (id, budget) (by simp [front])
    have current : state.isSuperseded id budget = false := by
      simp [isSuperseded, covers, recorded]
    refine ⟨id, budget, rest, front, recorded, positive, ?_⟩
    simp only [current, Bool.false_eq_true, if_false] at moves
    cases found : graph.get? id with
    | none =>
      simp only [found, Option.some.injEq] at moves
      exact .inl ⟨rfl, moves.symm⟩
    | some node =>
      simp only [found, Option.some.injEq] at moves
      exact .inr ⟨node, rfl, moves.symm⟩

theorem Invariant.step {next : Expansion} (valid : Invariant graph seeds depth floor none state)
    (moves : state.step graph = some next) :
    ∃ lower, Invariant graph seeds depth lower none next := by
  obtain ⟨id, budget, rest, front, recorded, positive, ends⟩ := step_cases valid.level moves
  have popped := valid.pop front
  refine ⟨budget - 1, ?_⟩
  rcases ends with ⟨missing, rfl⟩ | ⟨node, found, rfl⟩
  · refine popped.close ?_
    intro best _ node found
    rw [missing] at found
    cases found
  · have visited : state.best.get? id = some (budget - 1 + 1) := by
      rw [recorded, Nat.sub_add_cancel positive]
    obtain ⟨kept, grows, followed⟩ :=
      popped.foldl_follow visited found fun target member => NameSet.mem_def.2 member
    refine kept.close ?_
    intro best now other same target imported
    have best_eq : best = budget := by
      have before := grows.best id budget recorded
      exact Option.some.inj (now.symm.trans before)
    obtain rfl : node = other := Option.some.inj (found.symm.trans same)
    rw [best_eq]
    exact followed target imported

theorem invariant_start (graph : Graph) (seeds : NameSet) (positive : 1 ≤ depth) :
    Invariant graph seeds depth depth none (start seeds depth) := by
  have recorded : ∀ id, (start seeds depth).best.get? id =
      if id ∈ seeds.names then some depth else none := Keyed.get?_ofList_const seeds.names depth
  have entries : ∀ entry ∈ (start seeds depth).queue, entry.1 ∈ seeds.names ∧ entry.2 = depth := by
    intro entry member
    obtain ⟨id, seed, rfl⟩ := List.mem_map.1 member
    exact ⟨seed, rfl⟩
  have ofSeed : ∀ id budget, (start seeds depth).best.get? id = some budget →
      id ∈ seeds.names ∧ budget = depth := by
    intro id budget found
    rw [recorded] at found
    split at found
    · next seed =>
      cases found
      exact ⟨seed, rfl⟩
    · cases found
  refine ⟨⟨?_, ?_, ?_, ?_, ?_, ?_⟩, ?_, ?_, fun id seed => .inl seed, ?_⟩
  · intro entry member
    have whole := (entries entry member).2
    omega
  · intro entry member
    have whole := (entries entry member).2
    omega
  · exact List.pairwise_map.2 (List.pairwise_of_forall fun _ _ => Nat.le_refl _)
  · intro entry member
    obtain ⟨seed, whole⟩ := entries entry member
    rw [recorded, if_pos seed, whole]
  · have names : (start seeds depth).queue.map (·.1) = seeds.names := by
      simp [start, Function.comp_def]
    rw [names]
    exact seeds.nodup_names
  · intro id budget found
    exact Nat.le_of_eq (ofSeed id budget found).2.symm
  · intro seed member
    exact ⟨member, by rw [recorded, if_pos (NameSet.mem_def.1 member)]⟩
  · intro id budget found
    obtain ⟨seed, rfl⟩ := ofSeed id budget found
    exact ⟨0, id, seed, .here id, Nat.zero_add _⟩
  · intro id budget found
    obtain ⟨seed, rfl⟩ := ofSeed id budget found
    exact .inr (.inl (List.mem_map.2 ⟨id, seed, rfl⟩))

theorem invariant_run (valid : Invariant graph seeds depth floor none state) (steps : Nat) :
    ∃ lower, Invariant graph seeds depth lower none (state.run graph steps) := by
  induction steps generalizing state floor with
  | zero => exact ⟨floor, valid⟩
  | succ steps ih =>
    unfold run
    cases moves : state.step graph with
    | none => exact ⟨floor, valid⟩
    | some next =>
      obtain ⟨lower, kept⟩ := valid.step moves
      exact ih kept

end Expansion

end LayerAtlas
