import LayerAtlas.Graph.Basic

/-!
# Finalization

The visible nodes are moved to the end of their lifecycle; the others stay as the hidden background.

Embeds `finalize` of the Graph Shaper (specification, 4.7).
-/
namespace LayerAtlas

/-- Finalizes one id, counting it when that succeeds. An id without a node and a node without a
passport are passed over. -/
def finalizeOne (state : Graph × Nat) (id : String) : Graph × Nat :=
  match state.1.advance id .finalized with
  | .ok graph => (graph, state.2 + 1)
  | .error _ => state

/-- The graph with its visible nodes finalized, and how many there were. -/
def finalize (graph : Graph) (visible : NameSet) : Graph × Nat :=
  visible.names.foldl finalizeOne (graph, 0)

end LayerAtlas
