import LayerAtlas.Dotted
import LayerAtlas.ImportRecord
import LayerAtlas.Keyed
import LayerAtlas.SourceFile

/-!
# The module registry

All modules of a source tree with their imports, under their dotted names. The initializer of the
source root has no name of its own; it stands under the name of the root package. An absolute import
may spell a module with the root package in front or without it.

Embeds the module registry of the Graph Builder (specification, 4.5): `key_for`, `insert`, `lookup`,
`normalized_candidates`, `resolve_module` and `resolve_submodule`.
-/
namespace LayerAtlas

/-- A module with its imports as the source names them. -/
structure ScannedModule where
  name : String
  path : Path
  content : Option String
  imports : List ImportRecord
  deriving DecidableEq, Repr

def ScannedModule.isPackage (module : ScannedModule) : Bool :=
  module.path.isPackageInitializer

structure Registry where
  modules : Keyed ScannedModule
  /-- The name by which imports reach the source root; never empty. -/
  rootPackage : Option String

namespace Registry

/-- A registry without modules. An empty package name counts as none. -/
def new (rootPackage : Option String) : Registry :=
  ⟨.empty, rootPackage.filter (· ≠ "")⟩

/-- The key of a dotted name: the root's own name is that of the root package. -/
def keyFor (registry : Registry) (name : String) : String :=
  if name = "" then registry.rootPackage.getD Path.initializerStem else name

/-- Registers a module under its key, which becomes its name. -/
def insert (registry : Registry) (module : ScannedModule) : Registry :=
  let key := registry.keyFor module.name
  { registry with modules := registry.modules.insert key { module with name := key } }

def get? (registry : Registry) (name : String) : Option ScannedModule :=
  registry.modules.get? (registry.keyFor name)

/-- The key of a registered name. -/
def lookup (registry : Registry) (name : String) : Option String :=
  let key := registry.keyFor name
  if registry.modules.contains key then some key else none

def contains (registry : Registry) (name : String) : Bool :=
  (registry.lookup name).isSome

def size (registry : Registry) : Nat :=
  registry.modules.size

/-- The rest of a name behind the root package and a dot. -/
def behindRoot? (root name : String) : Option String :=
  ((root.toList ++ ['.']).isPrefixOf? name.toList).map String.ofList

/-- The names that an imported module may go by: as written, and without the root package in front.
Relative imports are anchored already and have one spelling. -/
def spellings (registry : Registry) (module : String) (isRelative : Bool) : List String :=
  match isRelative, registry.rootPackage with
  | false, some root =>
    if module = root then [module, ""]
    else
      match behindRoot? root module with
      | some rest => [module, rest]
      | none => [module]
  | _, _ => [module]

/-- The key of the module that an import names. -/
def resolveModule (registry : Registry) (record : ImportRecord) : Option String :=
  (registry.spellings record.module record.isRelative).findSome? registry.lookup

/-- The key of the module called `name` below the one that an import names. -/
def resolveSubmodule (registry : Registry) (record : ImportRecord) (name : String) :
    Option String :=
  (registry.spellings record.module record.isRelative).findSome? fun base =>
    registry.lookup (Dotted.child base name)

end Registry

end LayerAtlas
