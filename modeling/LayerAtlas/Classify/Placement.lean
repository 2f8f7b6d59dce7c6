import LayerAtlas.Classify.RuleBook

/-!
# Placement

Where a module sits, told by the folders on its path: scope, context, zone, layer and direction. The
folder above the first layer marker names the context, and the folders above it name the zone.

Embeds the first two stages of the Classification Engine (specification, 4.6): `discover_context` and
`define_coordinates`.
-/
namespace LayerAtlas

/-- What the folders say before the layer is settled. -/
structure Discovery where
  scope : Scope
  context : String
  zone : Option String
  /-- The folders from the border of the context down. -/
  remaining : List String
  stem : String
  /-- A first guess of the layer. -/
  layerSeed : Layer
  deriving DecidableEq, Repr

/-- The settled layer and side, and the folders left for rules to match. -/
structure Coordinates where
  layer : Layer
  direction : Direction
  tokens : List String
  deriving DecidableEq, Repr

/-- Scope, context, zone, and the folders that remain below them. -/
structure Territory where
  scope : Scope
  context : String
  zone : Option String
  remaining : List String
  deriving DecidableEq, Repr

namespace Territory

/-- The zone that folders name; none when there is nothing to name. -/
def zoneOf (folders : List String) : Option String :=
  let zone := ".".intercalate folders
  if zone = "" then none else some zone

/-- The territory of a bounded context. A layer folder at the front names its own context. -/
def ofContext (book : RuleBook) (folders : List String) (stem : String) : Territory :=
  match folders.findIdx? fun folder => (book.layers.lookup folder).isSome with
  | some 0 => ⟨.context, folders.headD stem, none, folders⟩
  | some (border + 1) =>
    ⟨.context, (folders.drop border).headD stem, zoneOf (folders.take border),
      folders.drop (border + 1)⟩
  | none => ⟨.context, folders.headD stem, none, folders.drop 1⟩

/-- The first folder, or the stem where there is none, tells the scope. -/
def ofPath (book : RuleBook) (folders : List String) (stem : String) : Territory :=
  match book.scopes.lookup (folders.headD stem) with
  | some .root => ⟨.root, "root", none, folders.drop 1⟩
  | some .shared => ⟨.shared, "shared", none, folders.drop 1⟩
  | some .context | none => ofContext book folders stem

end Territory

namespace Discovery

/-- What folders and stem say. The layer comes from the first layer marker that remains, else from
the stem. -/
def ofPath (book : RuleBook) (folders : List String) (stem : String) : Discovery :=
  let territory := Territory.ofPath book folders stem
  { scope := territory.scope
    context := territory.context
    zone := territory.zone
    remaining := territory.remaining
    stem := stem
    layerSeed :=
      match territory.remaining.findSome? book.layers.lookup with
      | some layer => layer
      | none => (book.layerOfStem? stem).getD .undefined }

/-- The layer: composition for the root scope, else the guess. -/
def layer (discovery : Discovery) : Layer :=
  if discovery.scope = .root then .composition else discovery.layerSeed

/-- The side that the first direction marker names, where the layer has sides or is open. -/
def direction (book : RuleBook) (discovery : Discovery) : Direction :=
  if discovery.layer.isDirectional ∨ discovery.layer = .undefined then
    (discovery.remaining.findSome? book.directions.lookup).getD .undefined
  else .none

def coordinates (book : RuleBook) (discovery : Discovery) : Coordinates where
  layer := discovery.layer
  direction := discovery.direction book
  tokens := discovery.remaining.filter fun folder => !book.isMarker folder

end Discovery

end LayerAtlas
