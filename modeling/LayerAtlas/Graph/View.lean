import LayerAtlas.Graph.Basic

/-!
# Views

The visible part of a graph as a diagram needs it: its nodes, the edges between visible ids, and a
summary of every bounded context that a visible node belongs to.

Embeds the view of the Graph Shaper (specification, 4.7): `from_graph`.
-/
namespace LayerAtlas

structure ViewNode where
  id : String
  path : Path
  status : Status
  passport : Option Passport
  deriving DecidableEq, Repr

/-- What a view says of one bounded context. -/
structure ContextSummary where
  name : String
  scope : Scope
  zone : Option String
  nodeCount : Nat
  /-- The layers of its nodes, in order of declaration. -/
  layers : List Layer
  deriving DecidableEq, Repr

namespace ContextSummary

/-- The summary of a context of which only this passport has been seen. -/
def ofPassport (passport : Passport) : ContextSummary :=
  ⟨passport.context, passport.scope, passport.zone, 1, [passport.layer]⟩

/-- Counts one more node of the context. Scope and zone stay those of the first. -/
def count (summary : ContextSummary) (passport : Passport) : ContextSummary :=
  { summary with
    nodeCount := summary.nodeCount + 1
    layers := Naming.all.filter fun layer =>
      summary.layers.contains layer || layer = passport.layer }

/-- The summaries of the contexts that these passports name, in order of names. -/
def ofPassports (passports : List Passport) : Keyed ContextSummary :=
  passports.foldl (fun map passport =>
    map.insert passport.context
      (match map.get? passport.context with
      | some summary => summary.count passport
      | none => ofPassport passport)) .empty

end ContextSummary

structure View where
  nodes : List ViewNode
  edges : List (String × String)
  contexts : List ContextSummary
  deriving DecidableEq, Repr

namespace View

/-- The view of the visible ids. An id without a node adds no node. -/
def ofGraph (graph : Graph) (visible : NameSet) : View :=
  let nodes := visible.names.filterMap fun id => (graph.get? id).map fun node =>
    (⟨node.id, node.path, node.status, node.passport⟩ : ViewNode)
  { nodes := nodes
    edges := graph.edges.filter fun edge => visible.contains edge.1 && visible.contains edge.2
    contexts := (ContextSummary.ofPassports (nodes.filterMap (·.passport))).values }

def ids (view : View) : List String :=
  view.nodes.map (·.id)

end View

end LayerAtlas
