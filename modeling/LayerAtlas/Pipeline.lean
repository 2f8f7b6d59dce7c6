import LayerAtlas.Build
import LayerAtlas.Classify.Classification
import LayerAtlas.Graph.View
import LayerAtlas.Scan
import LayerAtlas.Shape.Expansion
import LayerAtlas.Shape.Finalization
import LayerAtlas.Shape.Focus

/-!
# A run over a project

Scan, build, classify, choose the focus, expand it, finalize what is visible, and draw up the view.

Embeds `run` of the architecture pipeline (specification, 2).
-/
namespace LayerAtlas

/-- All that a run produces. -/
structure Atlas where
  graph : Graph
  visible : NameSet
  view : View
  scan : ScanStats
  build : BuildStats
  classification : ClassifyStats
  finalized : Nat

namespace Atlas

/-- The visible ids of a classified graph: the focus, grown by the request's depth. -/
def visibleIds (graph : Graph) (request : ViewRequest) : NameSet :=
  expand graph (initialFocus graph request) request.depth

/-- Runs every stage for the project at `project`. A relative focus is taken from the source root. -/
def run (reader : ImportReader) (book : RuleBook) (disk : FileSystem) (project : Path)
    (config : Config) (request : ViewRequest) : Except RunError (Recorded Atlas) := do
  let sourceRoot := config.layout.sourceRoot project
  let rootPackage := config.layout.rootPackageName? project
  let events ← (Scan.events disk config.scan sourceRoot).mapError .scan
  let root := Build.namingRoot disk sourceRoot
  let built ← Build.run reader root rootPackage config.scan.effectiveOnParseError
    (Scan.files events)
  let classified := built.data.graph.classify book root
  match classified.fault with
  | some fault => .error (.graph fault)
  | none =>
    let visible := visibleIds classified.graph (request.anchorFocus root)
    let (graph, finalized) := finalize classified.graph visible
    .ok {
      data := {
        graph := graph
        visible := visible
        view := .ofGraph graph visible
        scan := ScanStats.ofEvents events
        build := built.data.stats
        classification := classified.stats
        finalized := finalized }
      errors := built.errors }

end Atlas

end LayerAtlas
