import LayerAtlas.Graph.Node

/-!
# The module graph

Nodes under their ids, in increasing order of ids, with the edges that the nodes' imports give. A
step that fails leaves the graph as it was.

Embeds the code graph of the data model (specification, 3): `insert`, `advance`, `edges`,
`classified_count` and `coverage_percent`.
-/
namespace LayerAtlas

/-- Modules under their ids. -/
structure Graph where
  nodes : Keyed Node

namespace Graph

def empty : Graph := ⟨.empty⟩

instance : Inhabited Graph := ⟨empty⟩

/-- Puts a node under its own id, in the room of one with the same id. -/
def insert (graph : Graph) (node : Node) : Graph :=
  ⟨graph.nodes.insert node.id node⟩

def get? (graph : Graph) (id : String) : Option Node :=
  graph.nodes.get? id

def contains (graph : Graph) (id : String) : Bool :=
  graph.nodes.contains id

def size (graph : Graph) : Nat :=
  graph.nodes.size

def ids (graph : Graph) : List String :=
  graph.nodes.keys

/-- All nodes, in increasing order of the ids they stand under. -/
def nodeList (graph : Graph) : List Node :=
  graph.nodes.values

/-- Pairs of importing and imported id, in order. -/
def edges (graph : Graph) : List (String × String) :=
  graph.nodeList.flatMap fun node => node.imports.names.map fun target => (node.id, target)

/-- Replaces the node under an id by what the step makes of it. -/
def update (graph : Graph) (id : String) (step : Node → Except LifecycleError Node) :
    Except LifecycleError Graph :=
  match graph.get? id with
  | none => .error (.unknownNode id)
  | some node => do
    let next ← step node
    .ok ⟨graph.nodes.modify id fun _ => next⟩

def addImport (graph : Graph) (id target : String) : Except LifecycleError Graph :=
  graph.update id fun node => .ok (node.addImport target)

def advance (graph : Graph) (id : String) (next : Status) : Except LifecycleError Graph :=
  graph.update id (·.advance next)

def attachPassport (graph : Graph) (id : String) (passport : Passport) :
    Except LifecycleError Graph :=
  graph.update id (·.attachPassport passport)

/-- How many nodes have a passport that names a role. -/
def classifiedCount (graph : Graph) : Nat :=
  graph.nodeList.countP Node.isResolved

/-- The share of nodes with a known role, in percent: the quotient first, then times one hundred.
An empty graph has none. -/
def coverage (graph : Graph) : Float :=
  if graph.size = 0 then 0.0
  else Float.ofNat graph.classifiedCount / Float.ofNat graph.size * 100.0

def withStatus (graph : Graph) (status : Status) : List Node :=
  graph.nodeList.filter fun node => node.status = status

end Graph

end LayerAtlas
