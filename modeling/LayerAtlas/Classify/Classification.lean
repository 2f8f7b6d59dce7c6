import LayerAtlas.Classify.Placement
import LayerAtlas.Graph.Basic

/-!
# Classification

The passport of a file from its path alone, and the passports of all modules of a graph that have
none. The first rule of the pool that covers a folder names the role; else the first that covers the
stem.

Embeds the Classification Engine (specification, 4.6): `classify_path` and `classify_graph`, and the stages
`match_structural` and `match_name`.
-/
namespace LayerAtlas

namespace Rule

/-- The first rule that covers any of the folders. -/
def matchFolders (pool : List Rule) (tokens : List String) : Option Rule :=
  pool.find? fun rule => tokens.any rule.isMatch

/-- The first rule that covers the stem. -/
def matchStem (pool : List Rule) (stem : String) : Option Rule :=
  pool.find? fun rule => rule.isMatch stem

end Rule

namespace RuleBook

/-- The role, how it was found, and the layer of the rule that named it. -/
def role (book : RuleBook) (coordinates : Coordinates) (stem : String) :
    Role × MatchMethod × Option Layer :=
  let pool := book.pool coordinates.layer coordinates.direction
  match Rule.matchFolders pool coordinates.tokens with
  | some rule => (rule.role, .structural, some rule.layer)
  | none =>
    match Rule.matchStem pool stem with
    | some rule => (rule.role, .name, some rule.layer)
    | none => (.unknown, .unknown, none)

/-- The passport that folders below the source root and a stem give. -/
def passport (book : RuleBook) (folders : List String) (stem : String) : Passport :=
  let discovery := Discovery.ofPath book folders stem
  let coordinates := discovery.coordinates book
  let (role, method, ruleLayer) := book.role coordinates stem
  { scope := discovery.scope
    context := discovery.context
    zone := discovery.zone
    layer := coordinates.layer
    direction := coordinates.direction
    role := role
    method := method
    ruleLayer := ruleLayer }

/-- The folders below the root and the stem of the file name; none when the path leaves the root. -/
def foldersAndStem? (root path : Path) : Option (List String × String) :=
  (root.segmentsBelow? path).bind fun segments =>
    segments.getLast?.map fun name => (segments.dropLast, (Path.splitName (.ofString name)).1.lossy)

/-- The passport of a file. A path outside the root stays unresolved. -/
def classifyPath (book : RuleBook) (root path : Path) : Passport :=
  match foldersAndStem? root path with
  | some (folders, stem) => book.passport folders stem
  | none => .unresolved

end RuleBook

/-- How the roles of newly classified nodes were found. -/
structure ClassifyStats where
  classified : Nat := 0
  structural : Nat := 0
  byName : Nat := 0
  unknown : Nat := 0
  deriving DecidableEq, Repr

namespace ClassifyStats

/-- Counts one more node whose role was found by this method. -/
def count (stats : ClassifyStats) (method : MatchMethod) : ClassifyStats :=
  let stats := { stats with classified := stats.classified + 1 }
  match method with
  | .structural => { stats with structural := stats.structural + 1 }
  | .name => { stats with byName := stats.byName + 1 }
  | .unknown => { stats with unknown := stats.unknown + 1 }

end ClassifyStats

namespace Graph

/-- A run over the nodes: the graph so far, the counts, and the error that ended it, if any. -/
structure ClassifyRun where
  graph : Graph
  stats : ClassifyStats
  fault : Option LifecycleError

/-- Gives the node under this id its passport unless it has one or the run has ended. -/
def classifyNode (book : RuleBook) (root : Path) (run : ClassifyRun) (id : String) : ClassifyRun :=
  match run.fault, run.graph.get? id with
  | none, some node =>
    if node.passport.isSome then run
    else
      let passport := book.classifyPath root node.path
      match run.graph.attachPassport id passport with
      | .ok graph => { run with graph := graph, stats := run.stats.count passport.method }
      | .error fault => { run with fault := some fault }
  | _, _ => run

/-- Gives every node without a passport one, in increasing order of ids. A node that cannot take it
ends the run; the nodes before it keep theirs. -/
def classify (book : RuleBook) (root : Path) (graph : Graph) : ClassifyRun :=
  graph.ids.foldl (classifyNode book root) ⟨graph, {}, none⟩

end Graph

end LayerAtlas
