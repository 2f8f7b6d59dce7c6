import LayerAtlas.Config.Basic
import LayerAtlas.Graph.Basic
import LayerAtlas.Resolve.ModulePath
import LayerAtlas.Resolve.Origin
import LayerAtlas.RunError

/-!
# Building the graph

Source files become modules, and their imports become edges. First every module is registered, then
every import is resolved against the whole registry; an import without a module behind it is dropped.
How imports are read from a text is a parameter.

Embeds the Graph Builder (specification, 4.5): `build`, `build_tolerant` and `build_with_policy`, and the two
passes behind them, `register` and `link`.
-/
namespace LayerAtlas

/-- Reads the imports of a text, given its path and the dotted name of its module. -/
abbrev ImportReader := (text : String) → (path : Path) → (name : String) →
  Except ParseError (List ImportRecord)

/-- Counters of a build. -/
structure BuildStats where
  modules : Nat := 0
  resolved : Nat := 0
  /-- Imported names without a module behind them. -/
  dropped : Nat := 0
  unreadable : Nat := 0
  unparsable : Nat := 0
  /-- Files that are no modules. -/
  skipped : Nat := 0
  deriving DecidableEq, Repr

structure BuiltGraph where
  graph : Graph
  stats : BuildStats

/-- The modules registered so far, with counters and the errors passed over. -/
structure Registration where
  registry : Registry
  stats : BuildStats
  errors : List RunError

namespace Registration

def start (rootPackage : Option String) : Registration :=
  ⟨.new rootPackage, {}, []⟩

def skip (state : Registration) : Registration :=
  { state with stats := { state.stats with skipped := state.stats.skipped + 1 } }

/-- Registers a module. A package keeps its name against a module file of the same name. -/
def add (state : Registration) (module : ScannedModule) : Registration :=
  match state.registry.get? module.name with
  | some standing =>
    if standing.isPackage && !module.isPackage then state
    else { state with registry := state.registry.insert module }
  | none => { state with registry := state.registry.insert module }

/-- The imports of a file. One that cannot be read has none; one that does not parse stops the run or
has none, as the policy says. -/
def readImports (reader : ImportReader) (policy : ParsePolicy) (state : Registration)
    (file : SourceFile) (name : String) :
    Except RunError (Registration × List ImportRecord) :=
  match file.content, file.isReadable with
  | some text, true =>
    match reader text file.path name with
    | .ok imports => .ok (state, imports)
    | .error error =>
      match policy with
      | .abort => .error (.parse error)
      | .skip =>
        .ok ({ state with
          stats := { state.stats with unparsable := state.stats.unparsable + 1 }
          errors := state.errors ++ [.parse error] }, [])
  | _, _ =>
    .ok ({ state with stats := { state.stats with unreadable := state.stats.unreadable + 1 } }, [])

/-- Registers one file, if it is a module below the root. -/
def addFile (reader : ImportReader) (root : Path) (policy : ParsePolicy) (state : Registration)
    (file : SourceFile) : Except RunError Registration :=
  if (Language.ofPath? file.path).isNone then .ok state.skip
  else
    match ModulePath.nameOf? root file.path with
    | none => .ok state.skip
    | some name => do
      let (state, imports) ← state.readImports reader policy file name
      .ok (state.add ⟨name, file.path, file.content, imports⟩)

def addFiles (reader : ImportReader) (root : Path) (policy : ParsePolicy) (state : Registration)
    (files : List SourceFile) : Except RunError Registration :=
  files.foldlM (addFile reader root policy) state

end Registration

namespace Registry

/-- The module behind one imported name: the module of that name below the imported one, else the
origin of the symbol. The name for everything stands for the imported module itself. -/
def nameTarget (registry : Registry) (record : ImportRecord) (name : String) : Option String :=
  let base := registry.resolveModule record
  if name = ImportRecord.wildcard then base
  else
    match registry.resolveSubmodule record name with
    | some child => some child
    | none => base.map fun base => registry.origin base name

/-- The modules behind an import, one for each name, or one for the whole module. -/
def targets (registry : Registry) (record : ImportRecord) : List (Option String) :=
  if record.names.isEmpty then [registry.resolveModule record]
  else record.names.map (registry.nameTarget record)

/-- The modules behind all imports of a module. -/
def moduleTargets (registry : Registry) (module : ScannedModule) : List (Option String) :=
  module.imports.flatMap registry.targets

/-- The node of a module, with an edge to every module behind its imports. -/
def linkedNode (registry : Registry) (module : ScannedModule) : Node :=
  let found := Node.discovered module.name module.path
  let joined := ((registry.moduleTargets module).filterMap id).foldl Node.addImport found
  { joined with status := .linked }

def linkedGraph (registry : Registry) : Graph :=
  ⟨registry.modules.mapValues registry.linkedNode⟩

/-- All targets of all modules, found or not. -/
def allTargets (registry : Registry) : List (Option String) :=
  registry.modules.values.flatMap registry.moduleTargets

end Registry

namespace Build

/-- Registers all files and links their imports. -/
def run (reader : ImportReader) (root : Path) (rootPackage : Option String) (policy : ParsePolicy)
    (files : List SourceFile) : Except RunError (Recorded BuiltGraph) := do
  let state ← (Registration.start rootPackage).addFiles reader root policy files
  let targets := state.registry.allTargets
  .ok {
    data := {
      graph := state.registry.linkedGraph
      stats := { state.stats with
        modules := state.registry.size
        resolved := targets.countP Option.isSome
        dropped := targets.countP Option.isNone } }
    errors := state.errors }

/-- Stops at the first file that does not parse. -/
def strict (reader : ImportReader) (root : Path) (rootPackage : Option String)
    (files : List SourceFile) : Except RunError BuiltGraph := do
  .ok (← run reader root rootPackage .abort files).data

/-- Passes over files that do not parse. -/
def tolerant (reader : ImportReader) (root : Path) (rootPackage : Option String)
    (files : List SourceFile) : Except RunError (Recorded BuiltGraph) :=
  run reader root rootPackage .skip files

/-- The directory against which modules are named: the root, or where a root that is a file lies. -/
def namingRoot (disk : FileSystem) (root : Path) : Path :=
  if disk.isFileAt root then root.parent?.getD ⟨"."⟩ else root

end Build

end LayerAtlas
