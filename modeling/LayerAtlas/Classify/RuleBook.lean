import LayerAtlas.Classify.MarkerSet
import LayerAtlas.Classify.Tables

/-!
# Rule books

Compiled markers and rules, and the rules that apply at given coordinates in the order in which they
are tried.

Embeds the rule registry of the Classification Engine (specification, 4.6): `from_specs`, `builtin`,
`candidates` with `build_pool`, `is_marker` and `infer_layer_from_stem`.
-/
namespace LayerAtlas

structure RuleBook where
  scopes : MarkerSet Scope
  layers : MarkerSet Layer
  directions : MarkerSet Direction
  /-- Rules for folders, then rules for stems, as the tables list them. -/
  rules : List Rule
  /-- Rules by which the stem of a file name alone suggests a layer, in the order of trial. -/
  stemRules : List Rule

namespace RuleBook

/-- A book that knows no marker and no rule. -/
def empty : RuleBook := ⟨.empty, .empty, .empty, [], []⟩

/-- A book with the usual markers and these rules. The first pattern that is none is reported. -/
def ofSpecs (dialect : PatternDialect) (folderRules stemRules : List RuleSpec) :
    Except RuleError RuleBook := do
  let folderRules ← RuleSpec.compileAll dialect folderRules
  let stemRules ← RuleSpec.compileAll dialect stemRules
  .ok {
    scopes := ← MarkerSet.compile dialect Tables.scopeMarkers
    layers := ← MarkerSet.compile dialect Tables.layerMarkers
    directions := ← MarkerSet.compile dialect Tables.directionMarkers
    rules := folderRules ++ stemRules
    stemRules := Rule.prioritize (stemRules.filter fun rule => rule.layer ≠ .undefined) }

/-- The book of the usual tables. -/
def standard : RuleBook :=
  match ofSpecs .basic Tables.folderRules Tables.stemRules with
  | .ok book => book
  | .error _ => empty

/-- How many patterns the rules have. -/
def size (book : RuleBook) : Nat :=
  book.rules.length

/-- Whether a rule may name the role of a module at these coordinates. -/
def applies (layer : Layer) (direction : Direction) (rule : Rule) : Bool :=
  (rule.layer = layer || rule.layer = .global) && direction.admits rule.direction

/-- The rules for these coordinates in the order of trial. -/
def pool (book : RuleBook) (layer : Layer) (direction : Direction) : List Rule :=
  Rule.prioritize (book.rules.filter (applies layer direction))

def isMarker (book : RuleBook) (token : String) : Bool :=
  book.scopes.isMarker token || book.layers.isMarker token || book.directions.isMarker token

/-- The layer that the stem of a file name suggests. -/
def layerOfStem? (book : RuleBook) (stem : String) : Option Layer :=
  (book.stemRules.find? fun rule => rule.isMatch stem).map (·.layer)

end RuleBook

end LayerAtlas
