import LayerAtlas.Text.CaseFold

/-!
# Sets of characters

What one step of a pattern may match: single characters, ranges, tables, and the operations on sets.
A folded set holds every case variant of its members.
-/
namespace LayerAtlas

inductive CharSet where
  | oneOf (members : List Char)
  | range (low high : Char)
  | table (ranges : CharTable)
  | union (left right : CharSet)
  | inter (left right : CharSet)
  | diff (left right : CharSet)
  | symmDiff (left right : CharSet)
  | complement (set : CharSet)
  /-- All case variants of the members. -/
  | folded (set : CharSet)
  /-- All variants of the members in the case of ASCII letters. -/
  | asciiFolded (set : CharSet)
  deriving Repr

namespace CharSet

def empty : CharSet := .oneOf []

def any : CharSet := .complement empty

def contains : CharSet → Char → Bool
  | oneOf members, c => members.contains c
  | range low high, c => low ≤ c && c ≤ high
  | table ranges, c => ranges.contains c
  | union left right, c => left.contains c || right.contains c
  | inter left right, c => left.contains c && right.contains c
  | diff left right, c => left.contains c && !right.contains c
  | symmDiff left right, c => left.contains c != right.contains c
  | complement set, c => !set.contains c
  | folded set, c => (CaseFold.variants c).any set.contains
  | asciiFolded set, c => set.contains c || set.contains c.toUpper || set.contains c.toLower

/-- The characters in any of the sets. -/
def unionAll (sets : List CharSet) : CharSet :=
  sets.foldr union empty

def ofText (text : String) : CharSet := .oneOf text.toList

def negateIf (negated : Bool) (set : CharSet) : CharSet :=
  if negated then .complement set else set

end CharSet

end LayerAtlas
