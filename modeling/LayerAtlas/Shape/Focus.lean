import LayerAtlas.Config.Basic
import LayerAtlas.Graph.Basic

/-!
# Focus

Which classified nodes a view starts from: those under the focus directory or in a context asked for,
as far as the lists of contexts and layers and the wish to see assets admit them.

Embeds the view request and `determine_initial_focus` of the Graph Shaper (specification, 4.7).
-/
namespace LayerAtlas

structure ViewRequest where
  /-- The directory in focus; none means the whole tree. -/
  focus : Option Path := none
  /-- Contexts to show; none means all. -/
  contexts : NameSet := .empty
  /-- Layers to show, in order of declaration; none means all. -/
  layers : List Layer := []
  includeAssets : Bool := true
  depth : Nat := 0

namespace ViewRequest

def layerSet (layers : List Layer) : List Layer :=
  Naming.all.filter layers.contains

/-- The request that a configuration makes. A name that is no layer is passed over. -/
def ofConfig (config : ViewConfig) : ViewRequest where
  contexts := .ofList config.contexts
  layers := layerSet (config.layers.filterMap Layer.ofName?)
  includeAssets := config.effectiveIncludeAssets
  depth := config.effectiveDepth

/-- The request with a relative focus taken from the source root. -/
def anchorFocus (request : ViewRequest) (sourceRoot : Path) : ViewRequest :=
  { request with focus := request.focus.map fun focus =>
      if focus.isAbsolute then focus else sourceRoot.join focus }

/-- Under the focus, or in a context asked for. -/
def isCandidate (request : ViewRequest) (path : Path) (passport : Passport) : Bool :=
  match request.focus with
  | none => true
  | some focus => path.isUnder focus || request.contexts.contains passport.context

/-- Whether the lists of contexts and layers and the wish to see assets let a module through. -/
def admits (request : ViewRequest) (passport : Passport) : Bool :=
  (request.includeAssets || !passport.role.isAsset)
    && (request.layers.isEmpty || request.layers.contains passport.layer)
    && (request.contexts.isEmpty || request.contexts.contains passport.context)

/-- Whether a view starts from this node. -/
def selects (request : ViewRequest) (node : Node) : Bool :=
  node.passport.any fun passport =>
    request.isCandidate node.path passport && request.admits passport

end ViewRequest

/-- The ids of the nodes that a view starts from. -/
def initialFocus (graph : Graph) (request : ViewRequest) : NameSet :=
  .ofList ((graph.nodeList.filter request.selects).map (·.id))

end LayerAtlas
