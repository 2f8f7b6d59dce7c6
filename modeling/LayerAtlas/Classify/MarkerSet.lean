import LayerAtlas.Classify.TokenPattern

/-!
# Markers

Words on a path that name a scope, a layer or a direction. A table lists the synonyms of each value;
the first row with a synonym that covers the token decides.

Embeds the marker sets of the Classification Engine (specification, 4.6): `compile`, `lookup` and
`is_marker`.
-/
namespace LayerAtlas

/-- Values with the words that stand for them, in the order in which they are tried. -/
structure MarkerSet (α : Type) where
  rows : List (α × TokenPattern)

namespace MarkerSet

variable {α : Type}

def empty : MarkerSet α := ⟨[]⟩

/-- All synonyms of a row as one pattern. -/
def compileRow (dialect : PatternDialect) (row : α × List String) :
    Except RuleError (α × TokenPattern) := do
  .ok (row.1, ← TokenPattern.compile dialect ("|".intercalate row.2))

def compile (dialect : PatternDialect) (table : List (α × List String)) :
    Except RuleError (MarkerSet α) := do
  .ok ⟨← table.mapM (compileRow dialect)⟩

/-- The value whose synonyms cover the token. -/
def lookup (markers : MarkerSet α) (token : String) : Option α :=
  (markers.rows.find? fun row => row.2.isMatch token).map (·.1)

def isMarker (markers : MarkerSet α) (token : String) : Bool :=
  markers.rows.any fun row => row.2.isMatch token

def size (markers : MarkerSet α) : Nat :=
  markers.rows.length

theorem isMarker_eq_isSome_lookup (markers : MarkerSet α) (token : String) :
    markers.isMarker token = (markers.lookup token).isSome := by
  simp only [isMarker, lookup, Option.isSome_map]
  rw [Bool.eq_iff_iff, List.any_eq_true, List.find?_isSome]

end MarkerSet

end LayerAtlas
