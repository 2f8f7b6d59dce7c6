import LayerAtlas.Pattern.Property
import LayerAtlas.Pattern.Weight

/-!
# Dialects of patterns

What the grammar of patterns leaves open: the sets of characters that `\p` knows by name, and which
patterns are small enough to be compiled.
-/
namespace LayerAtlas

/-- What a reader of patterns goes by besides the grammar. -/
structure PatternDialect where
  /-- The set of a single name in `\p`, such as a script or a general category. -/
  named? : String → Option CharSet
  /-- The set of a name with a value in `\p`, such as `sc=Greek`. -/
  valued? : String → String → Option CharSet
  /-- Whether a text, with the pattern that it was read as, is within the limit on the compiled size. -/
  fits : List Char → Regex → Bool

namespace PatternDialect

/-- A dialect that knows the general categories and a few properties, and goes by an estimate of the
size. The usual tables name no set by `\p`, and all their patterns are small. -/
def basic : PatternDialect where
  named? := CharSet.named?
  valued? := CharSet.valued?
  fits := fun _ regex => regex.weight ≤ Regex.maxWeight

end PatternDialect

end LayerAtlas
