import LayerAtlas.Keyed
import LayerAtlas.Passport.Basic
import LayerAtlas.Path

/-!
# Modules as nodes

A module of the graph with its outgoing imports, and the lifecycle it runs through. The status of a
node never falls, a passport is never replaced, and a node is finalized only with a passport.

Embeds the code node of the data model (specification, 3): `add_import`, `advance` and
`attach_passport`.
-/
namespace LayerAtlas

inductive Status where
  | discovered | linked | classified | finalized
  deriving DecidableEq, Repr

instance : Naming Status where
  all := [.discovered, .linked, .classified, .finalized]
  name
    | .discovered => "discovered"
    | .linked => "linked"
    | .classified => "classified"
    | .finalized => "finalized"

namespace Status

/-- The place of a status in the lifecycle. -/
def rank : Status → Nat
  | discovered => 0
  | linked => 1
  | classified => 2
  | finalized => 3

end Status

/-- Steps that the lifecycle of a node forbids. -/
inductive LifecycleError where
  | statusRegression (id : String) (current next : Status)
  | missingPassport (id : String)
  | unknownNode (id : String)
  deriving DecidableEq, Repr

namespace LifecycleError

def message : LifecycleError → String
  | statusRegression id current next =>
    "Node " ++ id ++ " cannot move from " ++ Naming.name current ++ " back to " ++ Naming.name next
  | missingPassport id => "Node " ++ id ++ " has no passport and cannot be finalized"
  | unknownNode id => "Unknown node: " ++ id

end LifecycleError

/-- One module of the graph. -/
structure Node where
  id : String
  path : Path
  /-- Ids of the imported modules; an id need not belong to a node. -/
  imports : NameSet
  status : Status
  passport : Option Passport

namespace Node

/-- A module just found, without imports. -/
def discovered (id : String) (path : Path) : Node :=
  ⟨id, path, .empty, .discovered, none⟩

/-- Whether an import of `target` would be a new edge. An edge to itself never is. -/
def lacksImport (node : Node) (target : String) : Bool :=
  target ≠ node.id && !node.imports.contains target

/-- Records an import; one of the node itself is dropped. -/
def addImport (node : Node) (target : String) : Node :=
  if target = node.id then node else { node with imports := node.imports.insert target }

/-- Moves the node forward to `next`; staying is allowed. -/
def advance (node : Node) (next : Status) : Except LifecycleError Node :=
  if next.rank < node.status.rank then .error (.statusRegression node.id node.status next)
  else if next = .finalized ∧ node.passport = none then .error (.missingPassport node.id)
  else .ok { node with status := next }

/-- Attaches a passport and marks the node classified; a passport already there stays. -/
def attachPassport (node : Node) (passport : Passport) : Except LifecycleError Node :=
  if node.passport.isSome then .ok node
  else do
    let moved ← node.advance .classified
    .ok { moved with passport := some passport }

def isResolved (node : Node) : Bool :=
  node.passport.any Passport.isResolved

end Node

end LayerAtlas
