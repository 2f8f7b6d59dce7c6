/-!
# Character tables

A set of characters given by closed ranges of code points. The tables of the Unicode properties are
written as rows of hexadecimal ranges, such as `41-5a 5f`, and read once.
-/
namespace LayerAtlas

def isHexDigit (c : Char) : Bool :=
  c.isDigit || ('a' ≤ c && c ≤ 'f') || ('A' ≤ c && c ≤ 'F')

/-- A set of characters, as closed ranges of code points. -/
abbrev CharTable := List (Nat × Nat)

namespace CharTable

def hexValue (c : Char) : Nat :=
  if c.isDigit then c.toNat - '0'.toNat else c.toLower.toNat - 'a'.toNat + 10

/-- Reads ranges separated by blanks: `value` is the number being read, `low` the start of the range
when its dash has been passed. -/
def readRanges (value : Nat) (low : Option Nat) : List Char → CharTable
  | [] => [(low.getD value, value)]
  | c :: rest =>
    if c = ' ' then (low.getD value, value) :: readRanges 0 none rest
    else if c = '-' then readRanges 0 (some value) rest
    else readRanges (value * 16 + hexValue c) low rest

/-- The table written in rows of hexadecimal ranges. -/
def ofRows (rows : List String) : CharTable :=
  rows.flatMap fun row => readRanges 0 none row.toList

def contains (table : CharTable) (c : Char) : Bool :=
  table.any fun range => range.1 ≤ c.toNat && c.toNat ≤ range.2

theorem contains_iff (table : CharTable) (c : Char) :
    table.contains c = true ↔ ∃ range ∈ table, range.1 ≤ c.toNat ∧ c.toNat ≤ range.2 := by
  simp [contains]

end CharTable

end LayerAtlas
