import LayerAtlas.Text.Split

/-!
# Dotted names

Module names whose segments are separated by dots, how a name below another is formed, and where a
relative import leads.

Embeds `join_module` of the module registry and `anchor_relative` of the Import Parser (specification, 4.2).
-/
namespace LayerAtlas.Dotted

/-- The non-empty segments. -/
def segments (name : String) : List String :=
  ((splitPieces '.' name.toList).filter (· ≠ [])).map String.ofList

def join (segments : List String) : String :=
  ".".intercalate segments

/-- The name of a child; a child of the empty name stands alone. -/
def child (base name : String) : String :=
  if base = "" then name else base ++ "." ++ name

/-- Where a relative import with `level` leading dots leads, seen from the module `importer`.
A package already is its own first level. More levels than there are segments lead to the root. -/
def anchor (importer : String) (level : Nat) (isPackage : Bool) (suffix : String) : String :=
  let own := segments importer
  let up := if isPackage then level - 1 else level
  join (own.take (own.length - up) ++ segments suffix)

end LayerAtlas.Dotted
