/-!
# Import records

One imported module as a source file names it, with the names taken from it.

Embeds the imported module of the data model (specification, 3): `push_name` and `brings`.
-/
namespace LayerAtlas

structure ImportRecord where
  /-- The dotted name of the module; relative imports are already anchored. -/
  module : String
  line : Nat
  isRelative : Bool
  /-- The imported names in order of first mention; none when the whole module is imported. -/
  names : List String
  deriving DecidableEq, Repr

namespace ImportRecord

def whole (module : String) (line : Nat) (isRelative : Bool) : ImportRecord :=
  ⟨module, line, isRelative, []⟩

/-- Adds a name unless it is there. -/
def addName (record : ImportRecord) (name : String) : ImportRecord :=
  if record.names.contains name then record else { record with names := record.names ++ [name] }

def addNames (record : ImportRecord) (names : List String) : ImportRecord :=
  names.foldl addName record

/-- Whether the import brings this name into scope. -/
def brings (record : ImportRecord) (name : String) : Bool :=
  record.names.contains name

/-- The name that stands for every name. -/
def wildcard : String := "*"

end ImportRecord

end LayerAtlas
