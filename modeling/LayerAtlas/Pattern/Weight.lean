import LayerAtlas.Pattern.Regex

/-!
# The size of a pattern

An estimate of the room that a compiled pattern takes. Bounded repetition multiplies it, so patterns
of a few characters can be too large to use.
-/
namespace LayerAtlas

namespace CharSet

/-- How many ranges a set consists of, at most. -/
def spread : CharSet → Nat
  | oneOf members => members.length
  | range _ _ => 1
  | table ranges => ranges.length
  | union left right | inter left right | diff left right | symmDiff left right =>
    left.spread + right.spread
  | complement set => set.spread + 1
  | folded set | asciiFolded set => 2 * set.spread

/-- Whether all members are written as a single byte. -/
def isAsciiOnly : CharSet → Bool
  | oneOf members => members.all fun c => c.toNat < 128 && (c.toLower ≠ 'k' && c.toLower ≠ 's')
  | range _ high => high.toNat < 128
  | table ranges => ranges.all fun range => range.2 < 128
  | union left right | symmDiff left right => left.isAsciiOnly && right.isAsciiOnly
  | inter left right => left.isAsciiOnly || right.isAsciiOnly
  | diff left _ => left.isAsciiOnly
  | complement _ => false
  | folded set | asciiFolded set => set.isAsciiOnly

/-- The bytes that one use of the set takes: a transition for each range, and for longer encodings
the states between their bytes. -/
def weight (set : CharSet) : Nat :=
  if set.isAsciiOnly then 32 + 8 * set.spread else 400 + 60 * set.spread

end CharSet

namespace Regex

/-- Whether every match is empty. -/
def isZeroWidth : Regex → Bool
  | empty | look _ => true
  | chars _ => false
  | seq first second | alt first second => first.isZeroWidth && second.isZeroWidth
  | repeated body _ most => body.isZeroWidth || most = some 0

/-- The bytes that the compiled pattern takes. -/
def weight : Regex → Nat
  | empty | look _ => 32
  | chars set => set.weight
  | seq first second => first.weight + second.weight
  | alt left right => left.weight + right.weight + 40
  | repeated body least most =>
    if body.isZeroWidth then body.weight
    else
      match most with
      | some bound => least * body.weight + (bound - least) * (body.weight + 40)
      | none => max least 1 * body.weight + 40

/-- The largest weight of a usable pattern. -/
def maxWeight : Nat := 10485760

end Regex

end LayerAtlas
