import LayerAtlas.Graph.Basic

/-!
# Expansion along imports

From a set of seeds, the ids that imports reach within a number of hops. The walk is breadth-first
and carries a budget of hops: an id is queued again only with a larger budget than before, and an id
without a node is reached but never followed.

Embeds `expand` of the Graph Shaper (specification, 4.7).
-/
namespace LayerAtlas

/-- The state of the walk: ids to visit with their budgets, the largest budget with which each id was
queued, and all ids reached. -/
structure Expansion where
  queue : List (String × Nat)
  best : Keyed Nat
  reached : NameSet

namespace Expansion

/-- Every seed is queued with the whole budget. -/
def start (seeds : NameSet) (depth : Nat) : Expansion where
  queue := seeds.names.map fun id => (id, depth)
  best := .ofList (seeds.names.map fun id => (id, depth))
  reached := seeds

/-- Whether `id` was queued with a budget of at least `budget`. -/
def covers (state : Expansion) (id : String) (budget : Nat) : Bool :=
  match state.best.get? id with
  | some best => budget ≤ best
  | none => false

/-- Follows one import with the budget that remains behind it. -/
def follow (graph : Graph) (remaining : Nat) (state : Expansion) (target : String) : Expansion :=
  let reached := state.reached.insert target
  if remaining = 0 ∨ graph.contains target = false ∨ state.covers target remaining then
    { state with reached := reached }
  else
    { queue := state.queue ++ [(target, remaining)]
      best := state.best.insert target remaining
      reached := reached }

/-- Whether a queued entry has been overtaken by one with a larger budget. -/
def isSuperseded (state : Expansion) (id : String) (budget : Nat) : Bool :=
  state.covers id (budget + 1)

/-- Takes the first entry off the queue and follows its imports; nothing when the queue is empty. -/
def step (graph : Graph) (state : Expansion) : Option Expansion :=
  match state.queue with
  | [] => none
  | (id, budget) :: rest =>
    let popped := { state with queue := rest }
    if state.isSuperseded id budget then some popped
    else
      match graph.get? id with
      | none => some popped
      | some node => some (node.imports.names.foldl (follow graph (budget - 1)) popped)

/-- Steps until the queue is empty, at most `fuel` times. -/
def run (graph : Graph) : Nat → Expansion → Expansion
  | 0, state => state
  | fuel + 1, state =>
    match state.step graph with
    | none => state
    | some next => run graph fuel next

end Expansion

/-- The seeds and the ids within `depth` hops of them. Every entry queued after the seeds raises the
budget of a node, and budgets stay below `depth`; so the walk ends within the given steps. -/
def expand (graph : Graph) (seeds : NameSet) (depth : Nat) : NameSet :=
  if depth = 0 then seeds
  else
    ((Expansion.start seeds depth).run graph (seeds.size + graph.size * depth + 1)).reached

end LayerAtlas
